import CypherFragments.Compose.Assembler

/-!
# Node statements

Statements about a single node.
-/

set_option autoImplicit false

namespace CypherFragments

/-- What a node or relationship is labelled with. -/
inductive Label
  /-- The entity name of the record. -/
  | entity
  | named (name : String)
  deriving DecidableEq, Repr, Inhabited

namespace Label

def ofOption : Option String → Label
  | none => entity
  | some name => named name

def resolve (l : Label) (entityName : String) : String :=
  match l with
  | entity => entityName
  | named name => name

end Label

/-- Which clause a call matches by. -/
inductive ClauseChoice
  /-- The configured one. -/
  | default
  | custom (clause : MatchClause)
  deriving DecidableEq, Repr, Inhabited

namespace ClauseChoice

def resolve (c : ClauseChoice) (configured : MatchClause) : MatchClause :=
  match c with
  | default => configured
  | custom clause => clause

end ClauseChoice

namespace Fragment

def pattern (f : Fragment) (label : Label) : Pattern := ⟨f.var, label.resolve f.entityName⟩

def nodeMatch (f : Fragment) (label : Label) : NodeMatch := ⟨f.pattern label, f.conditions⟩

def withStatement (f : Fragment) (s : Statement) : Fragment := { f with statement := some s }

end Fragment

structure NodeComposer where
  assembler : Assembler
  clause : MatchClause
  deriving DecidableEq, Repr

namespace NodeComposer

def withProperties (c : NodeComposer) (record : Record) (label : Label) :
    Except ExtractError Fragment := do
  let f ← c.assembler.assemble record []
  return f.withStatement (.nodePattern (f.pattern label) f.bindings)

def find (c : NodeComposer) (record : Record) (label : Label) (clause : ClauseChoice)
    (returned : Bool) : Except ExtractError Fragment := do
  let f ← c.assembler.assembleWithMatch record [] (clause.resolve c.clause)
  return f.withStatement (.matchNode (f.nodeMatch label) returned)

def create (c : NodeComposer) (record : Record) (label : Label) (returned : Bool)
    (excludes : List String) : Except ExtractError Fragment := do
  let f ← c.assembler.assemble record excludes
  return f.withStatement (.createNode (f.pattern label) f.bindings returned)

def update (c : NodeComposer) (record : Record) (label : Label) (clause : ClauseChoice)
    (returned : Bool) (excludes : List String) : Except ExtractError Fragment := do
  let f ← c.assembler.assembleWithMatch record excludes (clause.resolve c.clause)
  return f.withStatement (.updateNode (f.nodeMatch label) f.bindings returned)

def delete (c : NodeComposer) (record : Record) (clause : ClauseChoice) (detach : Bool) :
    Except ExtractError Fragment := do
  let f ← c.assembler.assembleWithMatch record [] (clause.resolve c.clause)
  return f.withStatement (.deleteNode f.var f.conditions detach)

end NodeComposer

end CypherFragments
