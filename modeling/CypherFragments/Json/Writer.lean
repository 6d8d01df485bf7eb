import CypherFragments.Json.Basic

/-!
# Written JSON

`Json.compact` writes without any white space, `Json.pretty` with a member on each line, indented by
two blanks a level.
-/

set_option autoImplicit false

namespace CypherFragments.Json

/-! ## Strings -/

/-- The lower-case hexadecimal digit of `n < 16`. -/
def hexDigit (n : Nat) : Char := Nat.digitChar n

/-- One character of a string: quotes, backslashes and control characters are escaped. -/
def escapeChar (c : Char) : List Char :=
  if c = '"' then ['\\', '"']
  else if c = '\\' then ['\\', '\\']
  else if c = '\n' then ['\\', 'n']
  else if c = '\r' then ['\\', 'r']
  else if c = '\t' then ['\\', 't']
  else if c = '\x08' then ['\\', 'b']
  else if c = '\x0c' then ['\\', 'f']
  else if c.toNat < 0x20 then
    ['\\', 'u', '0', '0', hexDigit (c.toNat / 16), hexDigit (c.toNat % 16)]
  else [c]

def writeString (s : String) : List Char := '"' :: s.toList.flatMap escapeChar ++ ['"']

/-! ## On one line -/

mutual

def writeCompact : Json → List Char
  | null => "null".toList
  | bool b => (if b then "true" else "false").toList
  | number n => n.text
  | string s => writeString s
  | array items => '[' :: writeItems items ++ [']']
  | object members => '\x7b' :: writeMembers members ++ ['\x7d']

def writeItems : List Json → List Char
  | [] => []
  | [v] => writeCompact v
  | v :: vs => writeCompact v ++ ',' :: writeItems vs

def writeMembers : List (String × Json) → List Char
  | [] => []
  | [(k, v)] => writeString k ++ ':' :: writeCompact v
  | (k, v) :: ms => writeString k ++ ':' :: writeCompact v ++ ',' :: writeMembers ms

end

def compact (v : Json) : String := String.ofList v.writeCompact

/-! ## Over several lines -/

/-- A line end and the blanks of `level`. -/
def newLine (level : Nat) : List Char := '\n' :: List.replicate (2 * level) ' '

mutual

def writePretty (level : Nat) : Json → List Char
  | array (v :: vs) =>
    '[' :: newLine (level + 1) ++ writePretty (level + 1) v ++ writeMoreItems (level + 1) vs
      ++ newLine level ++ [']']
  | object ((k, v) :: ms) =>
    '\x7b' :: newLine (level + 1) ++ writeString k ++ [':', ' '] ++ writePretty (level + 1) v
      ++ writeMoreMembers (level + 1) ms ++ newLine level ++ ['\x7d']
  | array [] => ['[', ']']
  | object [] => ['\x7b', '\x7d']
  | null => "null".toList
  | bool b => (if b then "true" else "false").toList
  | number n => n.text
  | string s => writeString s

def writeMoreItems (level : Nat) : List Json → List Char
  | [] => []
  | v :: vs => ',' :: newLine level ++ writePretty level v ++ writeMoreItems level vs

def writeMoreMembers (level : Nat) : List (String × Json) → List Char
  | [] => []
  | (k, v) :: ms =>
    ',' :: newLine level ++ writeString k ++ [':', ' '] ++ writePretty level v
      ++ writeMoreMembers level ms

end

def pretty (v : Json) : String := String.ofList (writePretty 0 v)

end CypherFragments.Json
