import CypherFragments.Record.Basic
import CypherFragments.Text.Name

/-!
# Extraction

What a record contributes to a statement: its entity name and its fields with a usable tag and a
value. Fields whose tag is excluded are kept apart: they are not written, but a match clause may
still compare with them.
-/

set_option autoImplicit false

namespace CypherFragments

/-- The tag that leaves a field out everywhere. -/
def skipTag : String := "-"

/-- A field with its value. -/
structure BoundField where
  name : String
  tag : String
  value : Json

/-- The field, if it has a value and its tag is neither blank nor `-`. -/
def TaggedField.bound? (f : TaggedField) : Option BoundField :=
  if Text.isBlank f.tag.toList || f.tag == skipTag then none
  else f.value.map fun v => ⟨f.name, f.tag, v⟩

structure Extract where
  entityName : String
  /-- The fields that are written. -/
  fields : List BoundField
  /-- The fields left out by their tags. -/
  excluded : List BoundField

namespace Extract

/-- The value of the first field with this tag, written or left out. -/
def valueFor? (e : Extract) (tag : String) : Option Json :=
  ((e.fields ++ e.excluded).find? (·.tag == tag)).map (·.value)

end Extract

namespace Record

/-- The fields of a record that can be bound, in order. -/
def boundFields (r : Record) (family : String) : Except ExtractError (List BoundField) :=
  (r.taggedFields family).map (·.filterMap TaggedField.bound?)

/-- The record's entity name comes first, so its failure is the one reported. -/
def extract (r : Record) (family : String) (excludes : List String) :
    Except ExtractError Extract := do
  let name ← r.entityName
  let fields ← r.boundFields family
  return ⟨name, fields.filter (!excludes.contains ·.tag), fields.filter (excludes.contains ·.tag)⟩

end Record

end CypherFragments
