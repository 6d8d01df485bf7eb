import CypherFragments.Record.Basic
import CypherFragments.Text.Quoted

/-!
# Schemas

A `Schema α` is the table of the fields of the type `α`: the tags of each field, one for a family,
and how its value is read. A type with a schema turns each of its values into a record.
-/

set_option autoImplicit false

namespace CypherFragments

namespace Schema

variable {α : Type}

/-- One declared field. -/
structure Field (α : Type) where
  name : String
  /-- Pairs of a family and a tag. The first pair of a family counts. -/
  tags : List (String × String)
  /-- How the value is read, which may fail; a hidden field has no accessor. -/
  accessor : Option (α → Option Json)

namespace Field

def tag? (f : Field α) (family : String) : Option String := f.tags.lookup family

def read (f : Field α) (x : α) : Option Json := f.accessor.bind (· x)

def tagged? (f : Field α) (family : String) (x : α) : Option TaggedField :=
  (f.tag? family).map fun tag => ⟨f.name, tag, f.read x⟩

/-- The declaration, for diagnostics. -/
def describe (f : Field α) : String :=
  let pair (p : String × String) := "(" ++ Text.quoted p.1 ++ ", " ++ Text.quoted p.2 ++ ")"
  "FieldDescriptor \x7b name: " ++ Text.quoted f.name
    ++ ", tags: [" ++ ", ".intercalate (f.tags.map pair)
    ++ "], readable: " ++ (if f.accessor.isSome then "true" else "false") ++ " \x7d"

end Field

end Schema

/-- The fields of a record type, in the order in which they are declared. -/
structure Schema (α : Type) where
  name : String
  fields : List (Schema.Field α)

/-- The record of a value. -/
def Schema.record {α : Type} (s : Schema α) (x : α) : Record where
  entityName := .ok s.name
  taggedFields family := .ok (s.fields.filterMap (·.tagged? family x))

end CypherFragments
