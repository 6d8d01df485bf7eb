import CypherFragments.Clause.Basic
import CypherFragments.Fragment
import CypherFragments.Record.Extract

/-!
# Assembly

An `Assembler` binds the fields of a record to parameters: one tag family, one variable, one prefix
for all parameter names.
-/

set_option autoImplicit false

namespace CypherFragments

structure Assembler where
  tagName : String
  var : String
  paramPrefix : String
  deriving DecidableEq, Repr

namespace Assembler

def binding (a : Assembler) (f : BoundField) : Binding := ⟨f.tag, a.paramPrefix ++ f.tag⟩

/-- The values of the fields that are written. -/
def fieldParams (a : Assembler) (e : Extract) : Params :=
  .ofList (e.fields.map fun f => (a.paramPrefix ++ f.tag, f.value))

/-- The values that the record has for the entries of a clause. -/
def matchParams (a : Assembler) (e : Extract) (clause : MatchClause) : List (String × Json) :=
  clause.entries.filterMap fun m =>
    (e.valueFor? m.param).map fun v => (m.prefixedParam a.paramPrefix, v)

/-- The fragment of an extract, without a clause. -/
def fragment (a : Assembler) (e : Extract) : Fragment where
  statement := none
  bindings := e.fields.map a.binding
  conditions := []
  params := a.fieldParams e
  var := a.var
  paramPrefix := a.paramPrefix
  entityName := e.entityName

def assemble (a : Assembler) (record : Record) (excludes : List String) :
    Except ExtractError Fragment :=
  (record.extract a.tagName excludes).map a.fragment

/-- Comparisons with a field of the record are bound even if the field is excluded. -/
def assembleWithMatch (a : Assembler) (record : Record) (excludes : List String)
    (clause : MatchClause) : Except ExtractError Fragment :=
  (record.extract a.tagName excludes).map fun e =>
    { a.fragment e with
      conditions := clause.conditions a.var a.paramPrefix
      params := (a.fieldParams e).insertAll (a.matchParams e clause) }

end Assembler

end CypherFragments
