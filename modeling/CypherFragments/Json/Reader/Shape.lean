import CypherFragments.Json.Reader.Container
import CypherFragments.Json.Reader.Number
import CypherFragments.Json.Reader.String

/-!
# Shapes

A `Shape` says what to make of each kind of value; a kind that is not wanted is a
`Fault.mismatch`. An unwanted string or number is read before it is refused, an unwanted array or
object is refused at its opening bracket.
-/

set_option autoImplicit false

namespace CypherFragments.Json

variable {α : Type}

open Reader

/-- What to make of a value of each kind. Arrays and objects are read from after their opening
bracket. -/
structure Shape (α : Type) where
  null : Except Fault α := .error .mismatch
  bool : Bool → Except Fault α := fun _ => .error .mismatch
  number : Number → Except Fault α := fun _ => .error .mismatch
  string : String → Except Fault α := fun _ => .error .mismatch
  array : Reader α := fun _ => .error .mismatch
  object : Reader α := fun _ => .error .mismatch

/-- The value that `s` starts with, after its first character `c`. -/
def Shape.readFrom (shape : Shape α) (c : Char) (r : List Char) :
    Except Fault (α × Rest (c :: r)) :=
  if c = '"' then do
    let (x, t) ← stringBody r
    return (← shape.string x, Rest.cons t.toTail)
  else if c = '[' then do
    let (x, t) ← shape.array r
    return (x, Rest.cons t.toTail)
  else if c = '\x7b' then do
    let (x, t) ← shape.object r
    return (x, Rest.cons t.toTail)
  else if c = 'n' then do
    let t ← word ['u', 'l', 'l'] r
    return (← shape.null, Rest.cons t)
  else if c = 't' then do
    let t ← word ['r', 'u', 'e'] r
    return (← shape.bool true, Rest.cons t)
  else if c = 'f' then do
    let t ← word ['a', 'l', 's', 'e'] r
    return (← shape.bool false, Rest.cons t)
  else if c = '-' ∨ c.isDigit then do
    let (x, t) ← Reader.number (c :: r)
    return (← shape.number x, t)
  else .error .malformed

/-- A value of this shape, with white space before it. -/
def Shape.read (shape : Shape α) : Reader α := fun s =>
  match skipBlank s with
  | ⟨[], _⟩ => .error .truncated
  | ⟨c :: r, h⟩ => do
    let (x, t) ← shape.readFrom c r
    return (x, Rest.ofTail ⟨c :: r, h⟩ t)

/-- A string. -/
def Reader.text : Reader String := Shape.read { string := .ok }

/-- Passes over a value of any kind whose containers are nested at most `depth` deep. -/
def Reader.skip : Nat → Reader Unit
  | 0 => fun _ => .error .malformed
  | depth + 1 => fun s =>
    match skipBlank s with
    | ⟨[], _⟩ => .error .truncated
    | ⟨c :: r, h⟩ =>
      let inner : Except Fault (Unit × Rest (c :: r)) :=
        if c = '"' then do
          let (_, t) ← skipString r
          return ((), Rest.cons t.toTail)
        else if c = '[' then do
          let (_, t) ← items (skip depth) true r
          return ((), Rest.cons t.toTail)
        else if c = '\x7b' then do
          let (_, t) ← members skipString (fun _ _ => .ok (skip depth)) () true r
          return ((), Rest.cons t.toTail)
        else if c = '-' ∨ c.isDigit then skipNumber (c :: r)
        else Shape.readFrom { null := .ok (), bool := fun _ => .ok () } c r
      do
        let (_, t) ← inner
        return ((), Rest.ofTail ⟨c :: r, h⟩ t)

/-- Passes over any value: a text is longer than it is deep. -/
def Reader.skipValue : Reader Unit := fun s => skip (s.length + 1) s

end CypherFragments.Json
