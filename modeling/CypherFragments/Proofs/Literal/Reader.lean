import CypherFragments.Json.Basic
import CypherFragments.Text.Name

/-!
# A reader of literals

`Literal.read s`: the value that `s` starts with and what is left of `s` after it. At each place one
form at most can start, so there is nothing to choose between.
-/

set_option autoImplicit false

namespace CypherFragments.Literal

/-- A value as far as its literal tells it: of a number, the text. -/
inductive Tree
  | null
  | bool (b : Bool)
  | number (text : List Char)
  | string (s : String)
  | list (items : List Tree)
  | map (members : List (String × Tree))

namespace Tree

mutual

def ofJson : Json → Tree
  | .null => null
  | .bool b => bool b
  | .number n => number n.text
  | .string s => string s
  | .array items => list (ofItems items)
  | .object members => map (ofMembers members)

def ofItems : List Json → List Tree
  | [] => []
  | v :: vs => ofJson v :: ofItems vs

def ofMembers : List (String × Json) → List (String × Tree)
  | [] => []
  | (k, v) :: ms => (k, ofJson v) :: ofMembers ms

end

end Tree

namespace Reader

def skipBlanks (s : List Char) : List Char := s.dropWhile (· == ' ')

/-! ## Strings and keys -/

/-- The character that a backslash and `c` stand for. -/
def unescape? : Char → Option Char
  | '\\' => some '\\'
  | '\'' => some '\''
  | 'n' => some '\n'
  | 'r' => some '\r'
  | 't' => some '\t'
  | _ => none

/-- The text up to the closing quote. -/
def quoted : List Char → Option (List Char × List Char)
  | '\'' :: r => some ([], r)
  | '\\' :: c :: r => do
    let d ← unescape? c
    let (s, t) ← quoted r
    return (d :: s, t)
  | c :: r => do
    let (s, t) ← quoted r
    return (c :: s, t)
  | [] => none

/-- The text up to the closing backtick; two of them stand for one of the text. -/
def backticked : List Char → Option (List Char × List Char)
  | '\x60' :: '\x60' :: r => do
    let (s, t) ← backticked r
    return ('\x60' :: s, t)
  | '\x60' :: r => some ([], r)
  | c :: r => do
    let (s, t) ← backticked r
    return (c :: s, t)
  | [] => none

def string (s : List Char) : Option (Tree × List Char) := do
  let (v, r) ← quoted s
  return (.string (String.ofList v), r)

def plainKey (s : List Char) : Option (String × List Char) :=
  let k := s.takeWhile Text.isNameChar
  if Text.isWord k then some (String.ofList k, s.dropWhile Text.isNameChar) else none

def key : List Char → Option (String × List Char)
  | '\x60' :: r => do
    let (k, t) ← backticked r
    return (String.ofList k, t)
  | s => plainKey s

/-! ## Numbers and words -/

def isNumberChar (c : Char) : Bool :=
  c.isDigit || c == '+' || c == '-' || c == '.' || c == 'e'

def word? (w : List Char) : Option Tree :=
  if w = "null".toList then some .null
  else if w = "true".toList then some (.bool true)
  else if w = "false".toList then some (.bool false)
  else none

/-- A run of the characters of numbers, or else one of the three words. -/
def scalar (s : List Char) : Option (Tree × List Char) :=
  if s.head?.any isNumberChar then
    some (.number (s.takeWhile isNumberChar), s.dropWhile isNumberChar)
  else (word? (s.takeWhile Text.isNameChar)).map fun v => (v, s.dropWhile Text.isNameChar)

/-! ## Values -/

mutual

/-- A value; `n` limits its levels, items and members. -/
def value : Nat → List Char → Option (Tree × List Char)
  | 0, _ => none
  | n + 1, s =>
    match s with
    | '\'' :: r => string r
    | '[' :: r =>
      match skipBlanks r with
      | ']' :: t => some (.list [], t)
      | t => (items n t).map fun (vs, u) => (.list vs, u)
    | '\x7b' :: r =>
      match skipBlanks r with
      | '\x7d' :: t => some (.map [], t)
      | t => (members n t).map fun (ms, u) => (.map ms, u)
    | s => scalar s

/-- At least one item, up to the closing bracket. -/
def items : Nat → List Char → Option (List Tree × List Char)
  | 0, _ => none
  | n + 1, s => do
    let (v, r) ← value n s
    match skipBlanks r with
    | ',' :: t => (items n (skipBlanks t)).map fun (vs, u) => (v :: vs, u)
    | ']' :: t => some ([v], t)
    | _ => none

/-- At least one member, up to the closing brace. -/
def members : Nat → List Char → Option (List (String × Tree) × List Char)
  | 0, _ => none
  | n + 1, s => do
    let (k, r) ← key s
    match skipBlanks r with
    | ':' :: t =>
      let (v, u) ← value n (skipBlanks t)
      match skipBlanks u with
      | ',' :: t => (members n (skipBlanks t)).map fun (ms, u) => ((k, v) :: ms, u)
      | '\x7d' :: t => some ([(k, v)], t)
      | _ => none
    | _ => none

end

end Reader

/-- A text has room for no more levels, items and members than it has characters. -/
def read (s : List Char) : Option (Tree × List Char) := Reader.value s.length s

end CypherFragments.Literal
