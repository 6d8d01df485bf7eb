import CypherFragments.Compiler

/-!
# Operations as data

What a composer can be asked for is a `NodeOperation` or an `EdgeOperation`, and a method of the
compiler with its arguments is a `Call`. Each of them is one assembly per record, by a clause that
is empty where nothing is compared, and a statement made of what has been assembled:

* `NodeComposer.perform_eq`, `EdgeComposer.perform_eq`: the assemblies of an operation.
* `NodeComposer.perform_ok`, `EdgeComposer.perform_ok`: the fragment of an operation as a function
  of the extracts of its records.
* `Compiler.callNode_eq`, `Compiler.callEdge_eq`: the operation behind a method.
-/

set_option autoImplicit false

namespace CypherFragments

theorem Except.map_eq_ok {ε α β : Type} {x : Except ε α} {f : α → β} {b : β} :
    x.map f = .ok b ↔ ∃ a, x = .ok a ∧ b = f a := by
  cases x with
  | error e => simp [Except.map]
  | ok a => simp [Except.map, eq_comm]

theorem Except.bind_eq_ok {ε α β : Type} {x : Except ε α} {f : α → Except ε β} {b : β} :
    (x >>= f) = .ok b ↔ ∃ a, x = .ok a ∧ f a = .ok b := by
  cases x <;> simp [bind, Except.bind]

/-! ## Assemblies -/

namespace Assembler

/-- The fragment of an extract, found by a clause. -/
def matched (a : Assembler) (clause : MatchClause) (e : Extract) : Fragment :=
  { a.fragment e with
    conditions := clause.conditions a.var a.paramPrefix
    params := (a.fieldParams e).insertAll (a.matchParams e clause) }

variable (a : Assembler) (clause : MatchClause)

theorem assembleWithMatch_eq (r : Record) (excludes : List String) :
    a.assembleWithMatch r excludes clause = (r.extract a.tagName excludes).map (a.matched clause) :=
  rfl

/-- An assembly without a clause is one by the clause that has no entries. -/
theorem assemble_eq (r : Record) (excludes : List String) :
    a.assemble r excludes = a.assembleWithMatch r excludes .empty := rfl

end Assembler

/-! ## Nodes -/

/-- What a node composer can be asked for. -/
inductive NodeOperation
  | withProperties (label : Label)
  | find (label : Label) (clause : ClauseChoice) (returned : Bool)
  | create (label : Label) (returned : Bool) (excludes : List String)
  | update (label : Label) (clause : ClauseChoice) (returned : Bool) (excludes : List String)
  | delete (clause : ClauseChoice) (detach : Bool)

namespace NodeOperation

/-- What the node is found by. -/
def clause (configured : MatchClause) : NodeOperation → MatchClause
  | find _ choice _ | update _ choice _ _ | delete choice _ => choice.resolve configured
  | withProperties _ | create _ _ _ => .empty

def excludes : NodeOperation → List String
  | create _ _ excludes | update _ _ _ excludes => excludes
  | withProperties _ | find _ _ _ | delete _ _ => []

/-- The label that is written, if one is. -/
def label? : NodeOperation → Option Label
  | withProperties label | find label _ _ | create label _ _ | update label _ _ _ => some label
  | delete _ _ => none

/-- What is said with the fragment of the record. -/
def statement (f : Fragment) : NodeOperation → Statement
  | withProperties label => .nodePattern (f.pattern label) f.bindings
  | find label _ returned => .matchNode (f.nodeMatch label) returned
  | create label returned _ => .createNode (f.pattern label) f.bindings returned
  | update label _ returned _ => .updateNode (f.nodeMatch label) f.bindings returned
  | delete _ detach => .deleteNode f.var f.conditions detach

end NodeOperation

namespace NodeComposer

def perform (c : NodeComposer) (r : Record) : NodeOperation → Except ExtractError Fragment
  | .withProperties label => c.withProperties r label
  | .find label clause returned => c.find r label clause returned
  | .create label returned excludes => c.create r label returned excludes
  | .update label clause returned excludes => c.update r label clause returned excludes
  | .delete clause detach => c.delete r clause detach

variable (c : NodeComposer) (r : Record) (op : NodeOperation)

theorem perform_eq :
    c.perform r op = (c.assembler.assembleWithMatch r op.excludes (op.clause c.clause)).map
      fun f => f.withStatement (op.statement f) := by
  cases op <;> rfl

theorem perform_ok {f : Fragment} :
    c.perform r op = .ok f ↔ ∃ e, r.extract c.assembler.tagName op.excludes = .ok e ∧
      f = (c.assembler.matched (op.clause c.clause) e).withStatement
        (op.statement (c.assembler.matched (op.clause c.clause) e)) := by
  rw [perform_eq, Assembler.assembleWithMatch_eq, Except.map_eq_ok]
  constructor
  · rintro ⟨g, hg, rfl⟩
    obtain ⟨e, he, rfl⟩ := Except.map_eq_ok.1 hg
    exact ⟨e, he, rfl⟩
  · rintro ⟨e, he, rfl⟩
    exact ⟨_, Except.map_eq_ok.2 ⟨e, he, rfl⟩, rfl⟩

end NodeComposer

/-! ## Relationships -/

/-- What an edge composer can be asked for. -/
inductive EdgeOperation
  | create
  | update (clause : ClauseChoice)

namespace EdgeOperation

/-- What the relationship itself is found by. -/
def clause (configured : MatchClause) : EdgeOperation → MatchClause
  | create => .empty
  | update choice => choice.resolve configured

/-- What is said with the fragments of the relationship and its two ends. -/
def statement (spec : EdgeSpec) (f s t : Fragment) : EdgeOperation → Statement
  | create =>
    .createEdge ⟨s.nodeMatch spec.startNode.label, t.nodeMatch spec.endNode.label⟩
      (f.pattern spec.label) spec.direction f.bindings spec.returned
  | update _ =>
    .updateEdge ⟨s.nodeMatch spec.startNode.label, t.nodeMatch spec.endNode.label⟩
      (f.pattern spec.label) spec.direction f.conditions f.bindings spec.returned

end EdgeOperation

namespace EdgeComposer

def perform (c : EdgeComposer) (spec : EdgeSpec) : EdgeOperation → Except ExtractError Fragment
  | .create => c.create spec
  | .update clause => c.update spec clause

variable (c : EdgeComposer) (spec : EdgeSpec) (op : EdgeOperation)

/-- The assembler of the node that a relationship starts from. -/
def startAssembler : Assembler := ⟨c.assembler.tagName, c.startVar, startPrefix⟩

/-- The assembler of the node that a relationship leads to. -/
def endAssembler : Assembler := ⟨c.assembler.tagName, c.endVar, endPrefix⟩

/-- The fragment of the node that a relationship starts from. -/
def startMatched (e : Extract) : Fragment :=
  c.startAssembler.matched (spec.startNode.clause.resolve c.clause) e

/-- The fragment of the node that a relationship leads to. -/
def endMatched (e : Extract) : Fragment :=
  c.endAssembler.matched (spec.endNode.clause.resolve c.clause) e

/-- The fragment of the relationship without its ends. -/
def edgeMatched (e : Extract) : Fragment := c.assembler.matched (op.clause c.clause) e

/-- The fragment of an operation, from what has been extracted of the three records. -/
def composed (es et er : Extract) : Fragment :=
  joined (c.edgeMatched op er) (c.startMatched spec es) (c.endMatched spec et)
    (op.statement spec (c.edgeMatched op er) (c.startMatched spec es) (c.endMatched spec et))

theorem matchStart_eq (e : Endpoint) :
    c.matchStart e =
      (c.startAssembler.assembleWithMatch e.record [] (e.clause.resolve c.clause)).map
        fun f => f.withStatement (.matchNode (f.nodeMatch e.label) false) := rfl

theorem matchEnd_eq (e : Endpoint) :
    c.matchEnd e =
      (c.endAssembler.assembleWithMatch e.record [] (e.clause.resolve c.clause)).map
        fun f => f.withStatement (.matchNode (f.nodeMatch e.label) false) := rfl

/-- An operation is three assemblies, one for each record. -/
theorem perform_eq :
    c.perform spec op = do
      let s ← c.startAssembler.assembleWithMatch spec.startNode.record []
        (spec.startNode.clause.resolve c.clause)
      let t ← c.endAssembler.assembleWithMatch spec.endNode.record []
        (spec.endNode.clause.resolve c.clause)
      let f ← c.assembler.assembleWithMatch spec.edge spec.excludes (op.clause c.clause)
      return joined f s t (op.statement spec f s t) := by
  cases op with
  | create =>
    rw [perform, create, matchStart_eq, matchEnd_eq, Assembler.assemble_eq]
    generalize c.startAssembler.assembleWithMatch _ _ _ = s
    generalize c.endAssembler.assembleWithMatch _ _ _ = t
    cases s <;> cases t <;> rfl
  | update clause =>
    rw [perform, update, matchStart_eq, matchEnd_eq]
    generalize c.startAssembler.assembleWithMatch _ _ _ = s
    generalize c.endAssembler.assembleWithMatch _ _ _ = t
    cases s <;> cases t <;> rfl

theorem perform_ok {f : Fragment} :
    c.perform spec op = .ok f ↔ ∃ es et er,
      spec.startNode.record.extract c.assembler.tagName [] = .ok es ∧
      spec.endNode.record.extract c.assembler.tagName [] = .ok et ∧
      spec.edge.extract c.assembler.tagName spec.excludes = .ok er ∧
      f = c.composed spec op es et er := by
  simp only [perform_eq, Assembler.assembleWithMatch_eq, Except.bind_eq_ok, Except.map_eq_ok, pure,
    Except.pure, Except.ok.injEq]
  constructor
  · rintro ⟨_, ⟨es, hs, rfl⟩, _, ⟨et, ht, rfl⟩, _, ⟨er, hr, rfl⟩, rfl⟩
    exact ⟨es, et, er, hs, ht, hr, rfl⟩
  · rintro ⟨es, et, er, hs, ht, hr, rfl⟩
    exact ⟨_, ⟨es, hs, rfl⟩, _, ⟨et, ht, rfl⟩, _, ⟨er, hr, rfl⟩, rfl⟩

end EdgeComposer

/-! ## The methods of the compiler -/

/-- A method for statements about a node, with its arguments besides the record. -/
inductive NodeMethod
  | withProperties (label : Label)
  | find (label : Label) (returned : Bool)
  | findBy (label : Label) (clause : MatchClause) (returned : Bool)
  | create (label : Label) (returned : Bool) (excludes : List String)
  | update (label : Label) (returned : Bool) (excludes : List String)
  | updateBy (label : Label) (clause : MatchClause) (returned : Bool) (excludes : List String)
  | delete (detach : Bool)
  | deleteBy (detach : Bool) (clause : MatchClause)
  | detachDelete
  | detachDeleteBy (clause : MatchClause)

/-- A method for statements about a relationship, with its arguments besides the specification. -/
inductive EdgeMethod
  | create
  | createBy
  | update
  | updateBy (clause : MatchClause)

inductive Call
  | node (m : NodeMethod) (r : Record)
  | edge (m : EdgeMethod) (spec : EdgeSpec)

/-- A record as a call uses it. -/
structure Use where
  record : Record
  /-- The label that is written for it, if one is. -/
  label? : Option Label
  excludes : List String
  /-- What it is found by. -/
  clause : MatchClause

/-- The operation behind a method. -/
def NodeMethod.operation : NodeMethod → NodeOperation
  | withProperties label => .withProperties label
  | find label returned => .find label .default returned
  | findBy label clause returned => .find label (.custom clause) returned
  | create label returned excludes => .create label returned excludes
  | update label returned excludes => .update label .default returned excludes
  | updateBy label clause returned excludes => .update label (.custom clause) returned excludes
  | delete detach => .delete .default detach
  | deleteBy detach clause => .delete (.custom clause) detach
  | detachDelete => .delete .default true
  | detachDeleteBy clause => .delete (.custom clause) true

namespace EdgeMethod

/-- The operation behind a method. -/
def operation : EdgeMethod → EdgeOperation
  | create | createBy => .create
  | update => .update .default
  | updateBy clause => .update (.custom clause)

/-- The specification that a method goes by: some match the ends by the configured clause. -/
def spec (s : EdgeSpec) : EdgeMethod → EdgeSpec
  | create | update => s.withDefaultEnds
  | createBy | updateBy _ => s

end EdgeMethod

/-- How a node operation uses its record. -/
def NodeOperation.use (op : NodeOperation) (configured : MatchClause) (r : Record) : Use :=
  ⟨r, op.label?, op.excludes, op.clause configured⟩

/-- How a relationship operation uses the records of its start, its end and the relationship. -/
def EdgeOperation.uses (op : EdgeOperation) (configured : MatchClause) (spec : EdgeSpec) :
    List Use :=
  [⟨spec.startNode.record, some spec.startNode.label, [], spec.startNode.clause.resolve configured⟩,
    ⟨spec.endNode.record, some spec.endNode.label, [], spec.endNode.clause.resolve configured⟩,
    ⟨spec.edge, some spec.label, spec.excludes, op.clause configured⟩]

def Call.uses (configured : MatchClause) : Call → List Use
  | .node m r => [m.operation.use configured r]
  | .edge m spec => m.operation.uses configured (m.spec spec)

namespace Compiler

variable (c : Compiler)

def callNode (r : Record) : NodeMethod → Except ExtractError Fragment
  | .withProperties label => c.nodeWithProperties r label
  | .find label returned => c.matchNode r label returned
  | .findBy label clause returned => c.matchNodeBy r label clause returned
  | .create label returned excludes => c.createNode r label returned excludes
  | .update label returned excludes => c.updateNode r label returned excludes
  | .updateBy label clause returned excludes => c.updateNodeBy r label clause returned excludes
  | .delete detach => c.deleteNode r detach
  | .deleteBy detach clause => c.deleteNodeBy r detach clause
  | .detachDelete => c.detachDeleteNode r
  | .detachDeleteBy clause => c.detachDeleteNodeBy r clause

def callEdge (spec : EdgeSpec) : EdgeMethod → Except ExtractError Fragment
  | .create => c.createEdge spec
  | .createBy => c.createEdgeBy spec
  | .update => c.updateEdge spec
  | .updateBy clause => c.updateEdgeBy spec clause

def call : Call → Except ExtractError Fragment
  | .node m r => c.callNode r m
  | .edge m spec => c.callEdge spec m

theorem callNode_eq (m : NodeMethod) (r : Record) :
    c.callNode r m = c.nodes.perform r m.operation := by
  cases m <;> rfl

theorem callEdge_eq (m : EdgeMethod) (spec : EdgeSpec) :
    c.callEdge spec m = c.edges.perform (m.spec spec) m.operation := by
  cases m <;> rfl

end Compiler

end CypherFragments
