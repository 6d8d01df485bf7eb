import CypherFragments.Compose.Edge
import CypherFragments.Config.Validation

/-!
# The compiler

All statements under one valid configuration. The operations match by the configured clause, those
named `…By` by clauses of the call.
-/

set_option autoImplicit false

namespace CypherFragments

structure Compiler where
  config : Config
  valid : config.violations = []

namespace Compiler

def ofConfig (c : Config) : Except ConfigError Compiler :=
  if h : c.violations = [] then .ok ⟨c, h⟩ else .error (.invalid c.violations)

def assembler (c : Compiler) : Assembler := ⟨c.config.tagName, c.config.var, c.config.paramPrefix⟩

def nodes (c : Compiler) : NodeComposer := ⟨c.assembler, c.config.clause⟩

def edges (c : Compiler) : EdgeComposer :=
  ⟨c.assembler, c.config.startVar, c.config.endVar, c.config.clause⟩

variable (c : Compiler) (record : Record)

/-! ## Nodes -/

def nodeWithProperties (label : Label) : Except ExtractError Fragment :=
  c.nodes.withProperties record label

def matchNode (label : Label) (returned : Bool) : Except ExtractError Fragment :=
  c.nodes.find record label .default returned

def matchNodeBy (label : Label) (clause : MatchClause) (returned : Bool) :
    Except ExtractError Fragment :=
  c.nodes.find record label (.custom clause) returned

def createNode (label : Label) (returned : Bool) (excludes : List String) :
    Except ExtractError Fragment :=
  c.nodes.create record label returned excludes

def updateNode (label : Label) (returned : Bool) (excludes : List String) :
    Except ExtractError Fragment :=
  c.nodes.update record label .default returned excludes

def updateNodeBy (label : Label) (clause : MatchClause) (returned : Bool)
    (excludes : List String) : Except ExtractError Fragment :=
  c.nodes.update record label (.custom clause) returned excludes

def deleteNode (detach : Bool) : Except ExtractError Fragment :=
  c.nodes.delete record .default detach

def deleteNodeBy (detach : Bool) (clause : MatchClause) : Except ExtractError Fragment :=
  c.nodes.delete record (.custom clause) detach

/-- Deletes the node and its relationships. -/
def detachDeleteNode : Except ExtractError Fragment := c.deleteNode record true

def detachDeleteNodeBy (clause : MatchClause) : Except ExtractError Fragment :=
  c.deleteNodeBy record true clause

/-! ## Relationships -/

def createEdge (spec : EdgeSpec) : Except ExtractError Fragment :=
  c.edges.create spec.withDefaultEnds

def createEdgeBy (spec : EdgeSpec) : Except ExtractError Fragment := c.edges.create spec

def updateEdge (spec : EdgeSpec) : Except ExtractError Fragment :=
  c.edges.update spec.withDefaultEnds .default

def updateEdgeBy (spec : EdgeSpec) (clause : MatchClause) : Except ExtractError Fragment :=
  c.edges.update spec (.custom clause)

end Compiler

end CypherFragments
