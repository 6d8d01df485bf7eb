import CypherFragments.Json.Reader.Shape
import CypherFragments.Table

/-!
# Reading JSON

`Json.read` reads a whole text. Objects keep the order of their keys, a repeated key its first place
and its last value; arrays and objects are nested at most `maxDepth` deep.
-/

set_option autoImplicit false

namespace CypherFragments.Json

variable {α : Type}

open Reader

/-- The deepest nesting of arrays and objects. -/
def maxDepth : Nat := 127

/-- What to make of the values nested in one that may hold `depth` more containers. -/
def tooDeep : Shape Json where
  null := .ok .null
  bool b := .ok (.bool b)
  number n := .ok (.number n)
  string s := .ok (.string s)
  array _ := .error .malformed
  object _ := .error .malformed

/-- Members of an object, in order; a repeated key keeps its place and takes the last value. -/
def memberTable (read : Reader Json) : Reader (Table Json) := fun s =>
  members stringBody (fun k t => .ok (map (t.insert k) read)) .empty true s

/-- A value in which at most `depth` containers are nested. -/
def value : Nat → Reader Json
  | 0 => tooDeep.read
  | depth + 1 => Shape.read
    { tooDeep with
      array := map Json.array (items (value depth) true)
      object := map (fun t => Json.object t.entries) (memberTable (value depth)) }

/-- A whole text, with white space around the value. -/
def readWith (read : Reader α) (s : String) : Except Fault α := do
  let (x, r) ← read s.toList
  match (skipBlank r.1).1 with
  | [] => return x
  | _ :: _ => .error .malformed

def read (s : String) : Except Fault Json := readWith (value maxDepth) s

/-- A whole text that is an object. -/
def readTable (s : String) : Except Fault (Table Json) :=
  readWith (Shape.read { object := memberTable (value (maxDepth - 1)) }) s

end CypherFragments.Json
