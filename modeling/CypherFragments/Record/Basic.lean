import CypherFragments.Json.Basic

/-!
# Records

A record has an entity name and, for each tag family, a list of tagged fields. Either may fail, each
on its own.
-/

set_option autoImplicit false

namespace CypherFragments

/-- Only struct-shaped data is a record. -/
inductive ExtractError
  | unsupportedKind (kind : String)
  deriving DecidableEq, Repr

namespace ExtractError

/-- The error for data of this kind, with what was being read. -/
def unsupportedIn (kind context : String) : ExtractError :=
  unsupportedKind (kind ++ "\n  Context: " ++ context)

def message : ExtractError → String
  | unsupportedKind kind =>
    "Unsupported entity kind `" ++ kind ++ "` (records must be struct-shaped)"

end ExtractError

/-- A field that carries a tag of the requested family. It has no value if it cannot be read. -/
structure TaggedField where
  name : String
  tag : String
  value : Option Json

structure Record where
  /-- The default label. -/
  entityName : Except ExtractError String
  /-- The fields tagged under a family, in the order in which they were declared. -/
  taggedFields : String → Except ExtractError (List TaggedField)

end CypherFragments
