import CypherFragments.Json.Basic
import CypherFragments.Text.Name

/-!
# Cypher literals

How a value is written inside a statement: strings between single quotes, keys of maps plainly or
between backticks.
-/

set_option autoImplicit false

namespace CypherFragments.Literal

/-- `w` in the place of each `c`. -/
def replace (c : Char) (w s : List Char) : List Char :=
  s.flatMap fun d => if d = c then w else [d]

/-- What stands between single quotes. Backslashes come first, so that those of the other escapes
are not doubled. -/
def escape (s : List Char) : List Char :=
  replace '\\' ['\\', '\\'] s
    |> replace '\'' ['\\', '\'']
    |> replace '\n' ['\\', 'n']
    |> replace '\r' ['\\', 'r']
    |> replace '\t' ['\\', 't']

def writeString (s : String) : List Char := '\'' :: escape s.toList ++ ['\'']

/-- A word is written as it is; between backticks, a backtick is written twice. -/
def writeKey (k : String) : List Char :=
  if Text.isWord k.toList then k.toList
  else '\x60' :: replace '\x60' ['\x60', '\x60'] k.toList ++ ['\x60']

mutual

def write : Json → List Char
  | .null => "null".toList
  | .bool b => (if b then "true" else "false").toList
  | .number n => n.text
  | .string s => writeString s
  | .array items => '[' :: writeItems items ++ [']']
  | .object members => '\x7b' :: writeMembers members ++ ['\x7d']

def writeItems : List Json → List Char
  | [] => []
  | [v] => write v
  | v :: vs => write v ++ ',' :: ' ' :: writeItems vs

def writeMembers : List (String × Json) → List Char
  | [] => []
  | [(k, v)] => writeKey k ++ ':' :: ' ' :: write v
  | (k, v) :: ms => writeKey k ++ ':' :: ' ' :: write v ++ ',' :: ' ' :: writeMembers ms

end

def text (v : Json) : String := String.ofList (write v)

end CypherFragments.Literal
