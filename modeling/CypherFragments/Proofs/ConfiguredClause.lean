import CypherFragments.CommandLine.Run
import CypherFragments.Proofs.CommandLine.Options

/-!
# The configured clause

A choice of a clause counts by the clause that it resolves to. So a method that matches by the
configured clause is the one that is given this clause, whatever the records are, and fails where
that one fails.

* `NodeComposer.perform_resolved`, `EdgeComposer.perform_resolved`: the choices of an operation can
  be replaced by what they resolve to.
* `Command.fragment_unmatched`: what a request without entries asks for.
* `Compiler.configured_clause`: the methods in pairs, and the command line.
-/

set_option autoImplicit false

namespace CypherFragments

/-! ## Resolved choices -/

/-- The clause that is chosen, as a choice of its own. -/
def ClauseChoice.resolved (choice : ClauseChoice) (configured : MatchClause) : ClauseChoice :=
  .custom (choice.resolve configured)

def NodeOperation.resolved (configured : MatchClause) : NodeOperation → NodeOperation
  | find label choice returned => find label (choice.resolved configured) returned
  | update label choice returned excludes =>
    update label (choice.resolved configured) returned excludes
  | delete choice detach => delete (choice.resolved configured) detach
  | withProperties label => withProperties label
  | create label returned excludes => create label returned excludes

def EdgeOperation.resolved (configured : MatchClause) : EdgeOperation → EdgeOperation
  | create => create
  | update choice => update (choice.resolved configured)

/-- The same relationship, its ends matched by these choices. -/
def EdgeSpec.matchedBy (spec : EdgeSpec) (s t : ClauseChoice) : EdgeSpec :=
  { spec with
    startNode := { spec.startNode with clause := s }
    endNode := { spec.endNode with clause := t } }

def EdgeSpec.resolved (configured : MatchClause) (spec : EdgeSpec) : EdgeSpec :=
  spec.matchedBy (spec.startNode.clause.resolved configured)
    (spec.endNode.clause.resolved configured)

theorem NodeComposer.perform_resolved (c : NodeComposer) (r : Record) (op : NodeOperation) :
    c.perform r (op.resolved c.clause) = c.perform r op := by
  rw [perform_eq, perform_eq]
  cases op <;> rfl

namespace EdgeComposer

variable (c : EdgeComposer)

theorem perform_resolved (spec : EdgeSpec) (op : EdgeOperation) :
    c.perform (spec.resolved c.clause) (op.resolved c.clause) = c.perform spec op := by
  rw [perform_eq, perform_eq]
  cases op <;> rfl

/-- Choices that resolve to the same clauses compose the same statement. -/
theorem perform_congr {spec spec' : EdgeSpec} (op op' : EdgeOperation)
    (hs : spec.resolved c.clause = spec'.resolved c.clause)
    (ho : op.resolved c.clause = op'.resolved c.clause) :
    c.perform spec op = c.perform spec' op' := by
  rw [← c.perform_resolved spec op, hs, ho, c.perform_resolved]

end EdgeComposer

theorem EdgeSpec.resolved_matchedBy (spec : EdgeSpec) {configured : MatchClause}
    {s t : ClauseChoice} (hs : s.resolve configured = configured)
    (ht : t.resolve configured = configured) :
    (spec.matchedBy s t).resolved configured = spec.withDefaultEnds.resolved configured := by
  have hs' : s.resolved configured = .custom configured := congrArg _ hs
  have ht' : t.resolved configured = .custom configured := congrArg _ ht
  show spec.matchedBy (s.resolved configured) (t.resolved configured) = _
  rw [hs', ht']
  rfl

theorem ClauseChoice.resolve_of_mem {choice : ClauseChoice} {configured : MatchClause}
    (h : choice ∈ [.default, .custom configured]) : choice.resolve configured = configured := by
  rcases List.mem_cons.1 h with rfl | h
  · rfl
  · rw [List.mem_singleton.1 h]
    rfl

/-! ## Requests -/

/-- Neither the ends nor the relationship are to be matched by entries of their own. -/
structure EdgeRequest.Unmatched (r : EdgeRequest) : Prop where
  startMatch : r.startMatch = []
  endMatch : r.endMatch = []
  edgeMatch : r.edgeMatch = []

theorem EdgeRequest.Unmatched.withDefaultEnds {r : EdgeRequest} (h : r.Unmatched) {w : World}
    {spec : EdgeSpec} (hr : r.spec w = .ok spec) : spec.withDefaultEnds = spec := by
  unfold EdgeRequest.spec at hr
  rw [h.startMatch, h.endMatch] at hr
  obtain ⟨s, -, hr⟩ := Except.bind_eq_ok.1 hr
  obtain ⟨t, -, hr⟩ := Except.bind_eq_ok.1 hr
  obtain ⟨e, -, hr⟩ := Except.bind_eq_ok.1 hr
  obtain rfl := Except.ok.inj hr
  rfl

namespace Compiler

variable (c : Compiler)

theorem createEdge_matchedBy (spec : EdgeSpec) {s t : ClauseChoice}
    (hs : s.resolve c.config.clause = c.config.clause)
    (ht : t.resolve c.config.clause = c.config.clause) :
    c.createEdge spec = c.createEdgeBy (spec.matchedBy s t) :=
  c.edges.perform_congr .create .create (spec.resolved_matchedBy hs ht).symm rfl

theorem updateEdge_matchedBy (spec : EdgeSpec) {s t : ClauseChoice}
    (hs : s.resolve c.config.clause = c.config.clause)
    (ht : t.resolve c.config.clause = c.config.clause) :
    c.updateEdge spec = c.updateEdgeBy (spec.matchedBy s t) c.config.clause :=
  c.edges.perform_congr (.update .default) (.update (.custom c.config.clause))
    (spec.resolved_matchedBy hs ht).symm rfl

end Compiler

theorem Command.fragment_unmatched (c : Compiler) (w : World) {r : EdgeRequest}
    (h : r.Unmatched) :
    Command.fragment c w (.edge r) = r.spec w >>= fun spec =>
      (if r.update then c.updateEdge spec else c.createEdge spec).mapError .extract := by
  have hf : Command.fragment c w (.edge r) = r.spec w >>= fun spec =>
      (if r.update then c.updateEdgeBy spec ((Entries.choice r.edgeMatch).resolve c.config.clause)
        else c.createEdgeBy spec).mapError .extract := rfl
  have hm : (Entries.choice r.edgeMatch).resolve c.config.clause = c.config.clause := by
    rw [h.edgeMatch]
    rfl
  rw [hf, hm]
  cases hr : r.spec w with
  | error e => rfl
  | ok spec =>
    have hd : spec.matchedBy .default .default = spec := h.withDefaultEnds hr
    have hc := c.createEdge_matchedBy spec (s := .default) (t := .default) rfl rfl
    have hu := c.updateEdge_matchedBy spec (s := .default) (t := .default) rfl rfl
    rw [hd] at hc hu
    simp only [bind, Except.bind, hc, hu]

namespace Compiler

variable (c : Compiler)

/-- **Methods that match by the configured clause** give what their variants give for this clause,
fragment or error. Those for relationships do not look at the choices of the ends. A command line
for a relationship that spells no option for entries asks for them. -/
theorem configured_clause :
    (∀ record label returned, c.matchNode record label returned =
      c.matchNodeBy record label c.config.clause returned) ∧
    (∀ record label returned excludes, c.updateNode record label returned excludes =
      c.updateNodeBy record label c.config.clause returned excludes) ∧
    (∀ record detach, c.deleteNode record detach =
      c.deleteNodeBy record detach c.config.clause) ∧
    (∀ record, c.detachDeleteNode record = c.deleteNode record true ∧
      c.detachDeleteNode record = c.detachDeleteNodeBy record c.config.clause) ∧
    (∀ (spec : EdgeSpec), ∀ s ∈ [ClauseChoice.default, .custom c.config.clause],
      ∀ t ∈ [ClauseChoice.default, .custom c.config.clause],
        c.createEdge spec = c.createEdgeBy (spec.matchedBy s t) ∧
        c.updateEdge spec = c.updateEdgeBy (spec.matchedBy s t) c.config.clause) ∧
    (∀ (spec : EdgeSpec) (s s' t t' : ClauseChoice),
      c.createEdge (spec.matchedBy s t) = c.createEdge (spec.matchedBy s' t') ∧
      c.updateEdge (spec.matchedBy s t) = c.updateEdge (spec.matchedBy s' t')) ∧
    (∀ (w : World) (r : EdgeRequest), r.Unmatched →
      Command.fragment c w (.edge r) = r.spec w >>= fun spec =>
        (if r.update then c.updateEdge spec else c.createEdge spec).mapError .extract) ∧
    ∀ (args : List String) (i : Invocation) (r : EdgeRequest),
      CommandLine.read args = .ok i → i.command = .edge r →
      (∀ arg ∈ args, ∀ name ∈ ["start-match", "end-match", "edge-match"],
        ¬ CommandLine.Spells arg name) → r.Unmatched := by
  have node (record : Record) (op : NodeOperation) :=
    (c.nodes.perform_resolved record op).symm
  refine ⟨fun record label returned => node record (.find label .default returned),
    fun record label returned excludes => node record (.update label .default returned excludes),
    fun record detach => node record (.delete .default detach),
    fun record => ⟨rfl, node record (.delete .default true)⟩, fun spec s hs t ht => ?_,
    fun spec s s' t t' => ⟨rfl, rfl⟩, fun w r h => Command.fragment_unmatched c w h,
    fun args i r hi hr ha => ?_⟩
  · have hs := ClauseChoice.resolve_of_mem hs
    have ht := ClauseChoice.resolve_of_mem ht
    exact ⟨c.createEdge_matchedBy spec hs ht, c.updateEdge_matchedBy spec hs ht⟩
  · obtain ⟨g, hg, hl⟩ := CommandLine.read_edge hi hr
    obtain ⟨hs, ht, he⟩ := CommandLine.Given.matches_edgeRequest hg
    have none (name : String) (hn : name ∈ ["start-match", "end-match", "edge-match"]) :
        g.entries name = [] := (hl name fun arg hm => ha arg hm name hn).entries
    exact ⟨hs.trans (none _ (by simp)), ht.trans (none _ (by simp)), he.trans (none _ (by simp))⟩

/-- A relationship to be changed, with no entries to match anything by. -/
def unmatchedRequest : EdgeRequest where
  startNode := ⟨"\x7b\"id\":true\x7d", "User", none⟩
  endNode := ⟨"\x7b\x7d", "User", some "Admin"⟩
  edge := ⟨"\x7b\"since\":null\x7d", "Knows", none⟩
  startMatch := []
  endMatch := []
  edgeMatch := []
  direction := "out"
  returned := false
  excludes := []
  update := true

/-- A command line that makes the request. -/
def unmatchedLine : List String :=
  ["edge", "--start", unmatchedRequest.startNode.source, "--start-name=User", "--end",
    unmatchedRequest.endNode.source, "--end-name", "User", "--end-label=Admin", "--edge",
    unmatchedRequest.edge.source, "--edge-name", "Knows", "--update", "--direction", "out"]

/-- Without entries the command line changes the relationship by the configured clause. -/
theorem configured_clause_line :
    let c : Compiler := ⟨.default, by decide⟩
    let w : World := ⟨fun _ => none, fun _ => none⟩
    CommandLine.read unmatchedLine = .ok ⟨none, [], [], false, .edge unmatchedRequest⟩ ∧
      Command.fragment c w (.edge unmatchedRequest) =
        (unmatchedRequest.spec w >>= fun spec => (c.updateEdge spec).mapError .extract) ∧
      (Command.fragment c w (.edge unmatchedRequest)).toOption.map (·.query.text) =
        some ("MATCH (start:User) WHERE id(start) = $start_id "
          ++ "MATCH (end:Admin) WHERE id(end) = $end_id "
          ++ "MERGE (start)-[flava:Knows]->(end) WHERE id(flava) = $id SET flava.since = $since") ∧
      ∀ spec : EdgeSpec, c.createEdge spec =
        c.createEdgeBy (spec.matchedBy (.custom (.native "id")) .default) := by
  intro c w
  obtain ⟨-, -, -, -, hs, -, hf, hu⟩ := configured_clause c
  have hr : CommandLine.read unmatchedLine = .ok ⟨none, [], [], false, .edge unmatchedRequest⟩ := by
    decide +kernel
  have hm : unmatchedRequest.Unmatched := hu _ _ _ hr rfl (by decide +kernel)
  exact ⟨hr, hf w _ hm, by decide +kernel,
    fun spec => (hs spec _ (.tail _ (.head _)) _ (.head _)).1⟩

end Compiler

end CypherFragments
