import CypherFragments.Compose.Node

/-!
# Relationship statements

Each endpoint is matched as a node of its own, under a parameter prefix of its own, so that both may
have fields of the same name.
-/

set_option autoImplicit false

namespace CypherFragments

def startPrefix : String := "start_"
def endPrefix : String := "end_"

/-- One side of a relationship. -/
structure Endpoint where
  record : Record
  label : Label := .entity
  clause : ClauseChoice := .default

/-- All that a relationship statement is composed of. -/
structure EdgeSpec where
  startNode : Endpoint
  endNode : Endpoint
  edge : Record
  label : Label := .entity
  direction : Direction := .undirected
  returned : Bool := false
  excludes : List String := []

/-- The same relationship, its ends matched by the configured clause. -/
def EdgeSpec.withDefaultEnds (spec : EdgeSpec) : EdgeSpec :=
  { spec with
    startNode := { spec.startNode with clause := .default }
    endNode := { spec.endNode with clause := .default } }

structure EdgeComposer where
  assembler : Assembler
  startVar : String
  endVar : String
  clause : MatchClause
  deriving DecidableEq, Repr

namespace EdgeComposer

/-- The composer that matches an endpoint. -/
def endpointComposer (c : EdgeComposer) (var paramPrefix : String) (clause : ClauseChoice) :
    NodeComposer :=
  ⟨⟨c.assembler.tagName, var, paramPrefix⟩, clause.resolve c.clause⟩

def matchStart (c : EdgeComposer) (e : Endpoint) : Except ExtractError Fragment :=
  (c.endpointComposer c.startVar startPrefix e.clause).find e.record e.label .default false

def matchEnd (c : EdgeComposer) (e : Endpoint) : Except ExtractError Fragment :=
  (c.endpointComposer c.endVar endPrefix e.clause).find e.record e.label .default false

/-- The relationship `f` between the endpoints, as the statement says it. -/
def joined (f s t : Fragment) (statement : Statement) : Fragment :=
  ((f.withStatement statement).mergeParams s.params).mergeParams t.params

def create (c : EdgeComposer) (spec : EdgeSpec) : Except ExtractError Fragment := do
  let s ← c.matchStart spec.startNode
  let t ← c.matchEnd spec.endNode
  let f ← c.assembler.assemble spec.edge spec.excludes
  let ends := ⟨s.nodeMatch spec.startNode.label, t.nodeMatch spec.endNode.label⟩
  return joined f s t
    (.createEdge ends (f.pattern spec.label) spec.direction f.bindings spec.returned)

/-- The relationship itself is found by a clause of its own. -/
def update (c : EdgeComposer) (spec : EdgeSpec) (clause : ClauseChoice) :
    Except ExtractError Fragment := do
  let s ← c.matchStart spec.startNode
  let t ← c.matchEnd spec.endNode
  let f ← c.assembler.assembleWithMatch spec.edge spec.excludes (clause.resolve c.clause)
  let ends := ⟨s.nodeMatch spec.startNode.label, t.nodeMatch spec.endNode.label⟩
  return joined f s t
    (.updateEdge ends (f.pattern spec.label) spec.direction f.conditions f.bindings spec.returned)

end EdgeComposer

end CypherFragments
