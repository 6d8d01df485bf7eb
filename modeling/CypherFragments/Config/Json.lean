import CypherFragments.Clause.Json
import CypherFragments.Config.Basic

/-!
# Configurations as JSON

A configuration is an object, or an array of its fields in order whose end may be missing. A field
that is not given has its default.
-/

set_option autoImplicit false

namespace CypherFragments.Config

open Json Json.Reader

/-- What has been read of a configuration. -/
structure Draft where
  settings : List (Setting × String) := []
  clause : Option MatchClause := none

namespace Draft

def has (d : Draft) (s : Setting) : Bool := d.settings.any (·.1 == s)

def add (d : Draft) (s : Setting) (value : String) : Draft :=
  { d with settings := d.settings ++ [(s, value)] }

def addClause (d : Draft) (c : MatchClause) : Draft := { d with clause := some c }

def config (d : Draft) : Config :=
  { default.setAll d.settings with clause := d.clause.getD default.clause }

end Draft

/-- The key of the clause. -/
def clauseKey : String := "match_clause"

/-- A member, each of which is written once; members of other names are passed over. -/
def member (key : String) (d : Draft) : Except Fault (Reader Draft) :=
  match Setting.ofKey? key with
  | some s => if d.has s then .error .mismatch else .ok (map (d.add s) text)
  | none =>
    if key = clauseKey then
      if d.clause.isSome then .error .mismatch else .ok (map d.addClause MatchClause.shape.read)
    else .ok (map (fun _ => d) skipValue)

/-- The settings of an array, each with its default if the array has ended. -/
def positional (first : Bool) (d : Draft) :
    List Setting → (s : List Char) → Except Fault (Draft × Tail s)
  | [], s => .ok (d, .all s)
  | setting :: more, s => do
    let (value, r) ← item (.ok (default.get setting)) text first s
    let (d, t) ← positional false (d.add setting value) more r.1
    return (d, r.trans t)

def shape : Shape Config where
  array s := do
    let (d, r) ← positional true {} Setting.all s
    let (c, t) ← item (.ok default.clause) MatchClause.shape.read false r.1
    let u ← closeArray t.1
    return ((d.addClause c).config, Rest.ofTail (r.trans t) u)
  object s := do
    let (d, r) ← members stringBody member {} true s
    return (d.config, r)

def ofJson? (s : String) : Except Fault Config := readWith shape.read s

end CypherFragments.Config
