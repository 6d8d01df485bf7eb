import CypherFragments.Json.Read
import CypherFragments.Json.Writer
import CypherFragments.Record.Basic

/-!
# Records read from JSON

Only an object is struct-shaped. Each of its keys is bound under every family, tagged by its own
name.
-/

set_option autoImplicit false

namespace CypherFragments

/-- A value with the name of its entity. -/
structure JsonRecord where
  name : String
  value : Json

namespace JsonRecord

def unsupported (d : JsonRecord) : ExtractError :=
  .unsupportedIn d.value.kind ("record `" ++ d.name ++ "`")

def fields (members : List (String × Json)) : List TaggedField :=
  members.map fun (k, v) => ⟨k, k, some v⟩

def record (d : JsonRecord) : Record where
  entityName :=
    match d.value with
    | .object _ => .ok d.name
    | _ => .error d.unsupported
  taggedFields _ :=
    match d.value with
    | .object members => .ok (fields members)
    | _ => .error d.unsupported

/-! ## As JSON -/

open Json Json.Reader

/-- What has been read of a document. -/
structure Partial where
  name : Option String := none
  value : Option Json := none

def Partial.finish (p : Partial) : Except Fault JsonRecord :=
  match p.name, p.value with
  | some name, some value => .ok ⟨name, value⟩
  | _, _ => .error .mismatch

/-- A member, each of which is written once; members of other names are passed over. -/
def member (key : String) (p : Partial) : Except Fault (Reader Partial) :=
  if key = "name" then
    if p.name.isSome then .error .mismatch
    else .ok (map (fun s => { p with name := some s }) text)
  else if key = "value" then
    if p.value.isSome then .error .mismatch
    else .ok (map (fun v => { p with value := some v }) (Json.value (maxDepth - 1)))
  else .ok (map (fun _ => p) skipValue)

/-- An object with `name` and `value`, or an array of the two. -/
def shape : Shape JsonRecord where
  array s := do
    let (name, r) ← item (.error .mismatch) text true s
    let (v, t) ← item (.error .mismatch) (Json.value (maxDepth - 1)) false r.1
    let u ← closeArray t.1
    return (⟨name, v⟩, Rest.ofTail (r.trans t) u)
  object s := do
    let (p, r) ← members stringBody member ⟨none, none⟩ true s
    return (← p.finish, r)

def read (s : String) : Except Fault JsonRecord := readWith shape.read s

def toJson (d : JsonRecord) : Json := .object [("name", .string d.name), ("value", d.value)]

end JsonRecord

end CypherFragments
