import CypherFragments.Json.Reader.Basic

/-!
# Reading strings

`stringBody` and `skipString` start after the opening quote and end after the closing one.
-/

set_option autoImplicit false

namespace CypherFragments.Json.Reader

/-- The number of bytes of the text in UTF-8. -/
def byteCount (s : List Char) : Nat := s.foldl (fun n c => n + c.utf8Size) 0

def hexValue? (c : Char) : Option Nat :=
  if c.isDigit then some (c.toNat - '0'.toNat)
  else if 'a'.toNat ≤ c.toNat ∧ c.toNat ≤ 'f'.toNat then some (c.toNat - 'a'.toNat + 10)
  else if 'A'.toNat ≤ c.toNat ∧ c.toNat ≤ 'F'.toNat then some (c.toNat - 'A'.toNat + 10)
  else none

def hexNumber? (ds : List Char) : Option Nat :=
  ds.foldlM (fun n c => (hexValue? c).map (16 * n + ·)) 0

/-- Four hexadecimal digits. Four bytes are taken before they are looked at. -/
def hexFour : Reader Nat
  | a :: b :: c :: d :: r =>
    match hexNumber? [a, b, c, d] with
    | some n => .ok (n, Rest.cons (Rest.cons (Rest.cons (Rest.cons (.all r)).toTail).toTail).toTail)
    | none => .error .malformed
  | s => .error (if 4 ≤ byteCount s then .malformed else .truncated)

/-- The first of the two code units of a character beyond the basic plane. -/
def isHighSurrogate (n : Nat) : Bool := 0xd800 ≤ n && n ≤ 0xdbff

def isLowSurrogate (n : Nat) : Bool := 0xdc00 ≤ n && n ≤ 0xdfff

/-- The code unit of a second `\u` escape. -/
def secondEscape : Reader Nat
  | [] => .error .truncated
  | ['\\'] => .error .truncated
  | '\\' :: 'u' :: r => do
    let (n, u) ← hexFour r
    return (n, Rest.cons (Rest.cons u.toTail).toTail)
  | _ :: _ => .error .malformed

/-- The character of a `\u` escape, which takes a second escape after a high surrogate. -/
def unicodeEscape : Reader Char := fun s => do
  let (n, r) ← hexFour s
  if isLowSurrogate n then .error .malformed
  else if isHighSurrogate n then
    let (m, u) ← secondEscape r.1
    if isLowSurrogate m then
      return (Char.ofNat (0x10000 + (n - 0xd800) * 0x400 + (m - 0xdc00)), r.trans u)
    else .error .malformed
  else return (Char.ofNat n, r)

/-- The character that stands after a backslash for another one. -/
def simpleEscape? (c : Char) : Option Char :=
  if c = '"' ∨ c = '\\' ∨ c = '/' then some c
  else if c = 'b' then some '\x08'
  else if c = 'f' then some '\x0c'
  else if c = 'n' then some '\n'
  else if c = 'r' then some '\r'
  else if c = 't' then some '\t'
  else none

/-- The escape after a backslash, whose `\u` form is read by `unicode`. -/
def escapeBy (unicode : Reader Char) : Reader Char
  | [] => .error .truncated
  | c :: r =>
    if c = 'u' then do
      let (d, t) ← unicode r
      return (d, Rest.cons t.toTail)
    else
      match simpleEscape? c with
      | some d => .ok (d, Rest.cons (.all r))
      | none => .error .malformed

/-- The characters of a string and its closing quote. -/
def stringBy (escape : Reader Char) (s : List Char) : Except Fault (List Char × Rest s) :=
  match s with
  | [] => .error .truncated
  | c :: r =>
    if c = '"' then .ok ([], Rest.cons (.all r))
    else if c = '\\' then do
      let (d, t) ← escape r
      let (ds, u) ← stringBy escape t.1
      return (d :: ds, Rest.cons (t.trans u).toTail)
    else if c.toNat < 0x20 then .error .malformed
    else do
      let (ds, u) ← stringBy escape r
      return (c :: ds, Rest.cons u.toTail)
termination_by s.length
decreasing_by
  · have := t.2; simp; omega
  · simp

/-- A string after its opening quote. -/
def stringBody : Reader String := map String.ofList (stringBy (escapeBy unicodeEscape))

/-- Passes over a string after its opening quote. The code unit of a `\u` escape may be any. -/
def skipString : Reader Unit := map (fun _ => ()) (stringBy (escapeBy (map (fun _ => ' ') hexFour)))

end CypherFragments.Json.Reader
