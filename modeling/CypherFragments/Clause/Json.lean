import CypherFragments.Clause.Basic
import CypherFragments.Json.Read
import CypherFragments.Json.Writer

/-!
# Match clauses as JSON

A clause is an array of entries, an entry an object with `template` and `param` or an array of the
two. Entries are taken as they are: a repeated template stays repeated.
-/

set_option autoImplicit false

namespace CypherFragments

open Json Json.Reader

namespace MatchEntry

/-- What has been read of an entry. -/
structure Draft where
  template : Option String := none
  param : Option String := none

def Draft.entry? (d : Draft) : Option MatchEntry :=
  match d.template, d.param with
  | some template, some param => some ⟨template, param⟩
  | _, _ => none

/-- A member, each of which is written once; members of other names are passed over. -/
def member (key : String) (d : Draft) : Except Fault (Reader Draft) :=
  if key = "template" then
    if d.template.isSome then .error .mismatch
    else .ok (map (fun s => { d with template := some s }) text)
  else if key = "param" then
    if d.param.isSome then .error .mismatch
    else .ok (map (fun s => { d with param := some s }) text)
  else .ok (map (fun _ => d) skipValue)

def shape : Shape MatchEntry where
  array s := do
    let (template, r) ← item (.error .mismatch) text true s
    let (param, t) ← item (.error .mismatch) text false r.1
    let u ← closeArray t.1
    return (⟨template, param⟩, Rest.ofTail (r.trans t) u)
  object s := do
    let (d, r) ← members stringBody member ⟨none, none⟩ true s
    match d.entry? with
    | some e => return (e, r)
    | none => .error .mismatch

def toJson (e : MatchEntry) : Json :=
  .object [("template", .string e.template), ("param", .string e.param)]

end MatchEntry

namespace MatchClause

def shape : Shape MatchClause where
  array := map MatchClause.mk (items MatchEntry.shape.read true)

def ofJson? (s : String) : Except Fault MatchClause := readWith shape.read s

def toJson (c : MatchClause) : Json := .array (c.entries.map (·.toJson))

end MatchClause

end CypherFragments
