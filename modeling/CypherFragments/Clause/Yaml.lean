import CypherFragments.Clause.Json
import CypherFragments.Yaml.Document

/-!
# Match clauses in YAML

A clause is a sequence of mappings with `template` and `param`.
-/

set_option autoImplicit false

namespace CypherFragments

open Yaml (Node Document Reading)

namespace MatchEntry

/-- Takes over an entry of a mapping. The two keys are written once, other keys are passed over. -/
def Draft.addNode (d : Draft) (e : Node × Node) : Reading Draft := do
  let key ← Reading.text e.1
  if key = "template" then
    if d.template.isSome then failure
    return { d with template := some (← Reading.text e.2) }
  else if key = "param" then
    if d.param.isSome then failure
    return { d with param := some (← Reading.text e.2) }
  else return d

def ofNode (v : Node) : Reading MatchEntry := do
  let d ← (← Reading.entries v).foldlM Draft.addNode ⟨none, none⟩
  d.entry?

end MatchEntry

namespace MatchClause

def ofNode (v : Node) : Reading MatchClause := do
  return ⟨← (← Reading.items v).mapM MatchEntry.ofNode⟩

/-- A text without a document is the empty clause. -/
def ofYaml? (s : String) : Option MatchClause := do
  (← Document.read? s).decode? ofNode empty

end MatchClause

end CypherFragments
