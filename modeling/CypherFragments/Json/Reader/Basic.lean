import CypherFragments.Json.Basic

/-!
# Readers

A `Reader` takes something off the start of a text and returns it with the rest, which is shorter.
The first fault in reading order is the one reported.
-/

set_option autoImplicit false

namespace CypherFragments.Json

/-- Why a text is no JSON of the wanted shape. -/
inductive Fault
  /-- The text is not JSON. -/
  | malformed
  /-- The text is JSON so far, but not of the wanted shape. -/
  | mismatch
  /-- The text ends inside or before a value. -/
  | truncated
  deriving DecidableEq, Repr

/-- What is left of `s`, possibly all of it. -/
abbrev Tail (s : List Char) := { r : List Char // r.length ≤ s.length }

/-- What is left of `s` after something has been read from it. -/
abbrev Rest (s : List Char) := { r : List Char // r.length < s.length }

abbrev Reader (α : Type) := (s : List Char) → Except Fault (α × Rest s)

/-! ## What is left -/

namespace Tail

def all (s : List Char) : Tail s := ⟨s, Nat.le_refl _⟩

/-- What is left of `s` when `t` is left of `s` without its first character. -/
def cons {c : Char} {s : List Char} (t : Tail s) : Tail (c :: s) := ⟨t.1, Nat.le_succ_of_le t.2⟩

def trans {s : List Char} (t : Tail s) (u : Tail t.1) : Tail s := ⟨u.1, Nat.le_trans u.2 t.2⟩

end Tail

namespace Rest

/-- What is left of `s` after its first character, when `t` is left of the others. -/
def cons {c : Char} {s : List Char} (t : Tail s) : Rest (c :: s) := ⟨t.1, Nat.lt_succ_of_le t.2⟩

/-- What follows a character that `s` comes down to. -/
def after {c : Char} {s : List Char} (r : List Char) (h : (c :: r).length ≤ s.length) : Rest s :=
  ⟨r, h⟩

def toTail {s : List Char} (r : Rest s) : Tail s := ⟨r.1, Nat.le_of_lt r.2⟩

def trans {s : List Char} (r : Rest s) (u : Rest r.1) : Rest s := ⟨u.1, Nat.lt_trans u.2 r.2⟩

def thenTail {s : List Char} (r : Rest s) (t : Tail r.1) : Rest s :=
  ⟨t.1, Nat.lt_of_le_of_lt t.2 r.2⟩

def ofTail {s : List Char} (t : Tail s) (r : Rest t.1) : Rest s := ⟨r.1, Nat.lt_of_lt_of_le r.2 t.2⟩

end Rest

namespace Reader

/-- What `read` reads, changed by `f`. -/
def map {α β : Type} (f : α → β) (read : Reader α) : Reader β := fun s => do
  let (x, r) ← read s
  return (f x, r)

/-! ## White space and words -/

def isBlank (c : Char) : Bool := c == ' ' || c == '\n' || c == '\t' || c == '\r'

def skipBlank : (s : List Char) → Tail s
  | [] => .all []
  | c :: r => if isBlank c then (skipBlank r).cons else .all (c :: r)

/-- The rest of a word whose first letter has been read. -/
def word : (w : List Char) → (s : List Char) → Except Fault (Tail s)
  | [], s => .ok (.all s)
  | _ :: _, [] => .error .truncated
  | c :: w, d :: s =>
    if c = d then do
      let t ← word w s
      return t.cons
    else .error .malformed

end Reader

end CypherFragments.Json
