import CypherFragments.Proofs.Edge.Parameters

/-!
# The parts of a relationship statement

A relationship statement is made of three fragments that stand by themselves: the matches of its two
ends, each of a node composer with a prefix of its own, and the assembly of the relationship.

* `EdgeComposer.joins_composed`: what the composed fragment takes from each of them.
* `EdgeComposer.perform_joins`: the three are what a node composer and the assembler give.
-/

set_option autoImplicit false

namespace CypherFragments

/-- `f` says what the matches `s` and `t` say, then more, and is `r` in all other respects but that
the parameters of `s` and `t` go over its own. -/
structure Fragment.Joins (f r s t : Fragment) : Prop where
  query : ∃ rest, f.query.text = s.query.text ++ " " ++ t.query.text ++ " " ++ rest
  createLiteral : f.createLiteral.text = r.createLiteral.text
  setList : f.setList.text = r.setList.text
  matchPredicate : f.matchPredicate.text = r.matchPredicate.text
  var : f.var = r.var
  paramPrefix : f.paramPrefix = r.paramPrefix
  entityName : f.entityName = r.entityName
  keys : f.params.keys = (r.params.keys ++ s.params.keys ++ t.params.keys).eraseDups
  get? : ∀ k, f.params.get? k = (t.params.get? k).or ((s.params.get? k).or (r.params.get? k))
  apart : ∀ k ∈ s.params.keys, k ∉ t.params.keys
  startKept : ∀ k ∈ s.params.keys, f.params.get? k = s.params.get? k
  endKept : ∀ k ∈ t.params.keys, f.params.get? k = t.params.get? k

/-! ## Parameters under a prefix -/

namespace Assembler

/-- All parameters of an assembly start with its prefix. -/
theorem exists_of_mem_keys_matched {a : Assembler} {clause : MatchClause} {e : Extract} {k : String}
    (h : k ∈ (a.matched clause e).params.keys) : ∃ p, k = a.paramPrefix ++ p := by
  rcases mem_keys_matched.1 h with ⟨f, -, hk⟩ | ⟨m, -, -, hk⟩
  · exact ⟨f.tag, hk.symm⟩
  · exact ⟨m.param, hk.symm⟩

end Assembler

namespace EdgeComposer

variable (c : EdgeComposer) (spec : EdgeSpec) (op : EdgeOperation) (es et er : Extract)

/-- No tag and no clause makes the two ends bind the same parameter. -/
theorem keys_ends_apart {k : String} (hs : k ∈ (c.startMatched spec es).params.keys) :
    k ∉ (c.endMatched spec et).params.keys := by
  intro ht
  obtain ⟨p, rfl⟩ := Assembler.exists_of_mem_keys_matched hs
  obtain ⟨q, hq⟩ := Assembler.exists_of_mem_keys_matched ht
  exact startPrefix_append_ne p q hq

theorem keys_composed :
    (c.composed spec op es et er).params.keys =
      ((c.edgeMatched op er).params.keys ++ (c.startMatched spec es).params.keys
        ++ (c.endMatched spec et).params.keys).eraseDups := by
  have h : (c.composed spec op es et er).params = (c.edgeMatched op er).params.insertAll
      ((c.startMatched spec es).params.entries ++ (c.endMatched spec et).params.entries) :=
    (Table.insertAll_append _ _ _).symm
  rw [h, Table.keys_insertAll, List.map_append, ← List.append_assoc]
  rfl

/-! ## The three fragments -/

/-- The match of the node that a relationship starts from, as a statement of its own. -/
def startFound (e : Extract) : Fragment :=
  (c.startMatched spec e).withStatement
    (.matchNode ((c.startMatched spec e).nodeMatch spec.startNode.label) false)

/-- The match of the node that a relationship leads to, as a statement of its own. -/
def endFound (e : Extract) : Fragment :=
  (c.endMatched spec e).withStatement
    (.matchNode ((c.endMatched spec e).nodeMatch spec.endNode.label) false)

theorem query_composed :
    ∃ rest, (c.composed spec op es et er).query =
      (c.startFound spec es).query ++ Query.ofText " " ++ (c.endFound spec et).query
        ++ Query.ofText " " ++ rest := by
  have hs : (c.startFound spec es).query =
      ((c.startMatched spec es).nodeMatch spec.startNode.label).query := List.append_nil _
  have ht : (c.endFound spec et).query =
      ((c.endMatched spec et).nodeMatch spec.endNode.label).query := List.append_nil _
  have hq : (c.composed spec op es et er).query =
      (op.statement spec (c.edgeMatched op er) (c.startMatched spec es)
        (c.endMatched spec et)).query := rfl
  rw [hq, hs, ht]
  cases op with
  | create =>
    simp only [EdgeOperation.statement, Statement.query, Ends.query, List.append_assoc]
    exact ⟨_, rfl⟩
  | update clause =>
    simp only [EdgeOperation.statement, Statement.query, Ends.query, List.append_assoc]
    exact ⟨_, rfl⟩

theorem joins_composed :
    (c.composed spec op es et er).Joins (c.edgeMatched op er) (c.startFound spec es)
      (c.endFound spec et) where
  query := by
    obtain ⟨rest, h⟩ := c.query_composed spec op es et er
    refine ⟨rest.text, ?_⟩
    rw [h]
    simp only [Query.text_append, Query.text_ofText]
  createLiteral := rfl
  setList := rfl
  matchPredicate := rfl
  var := rfl
  paramPrefix := rfl
  entityName := rfl
  keys := c.keys_composed spec op es et er
  get? := c.get?_composed spec op
  apart k hk := c.keys_ends_apart spec es et hk
  startKept k hk := by
    have ht : (c.endMatched spec et).params.get? k = none :=
      (Table.get?_eq_none_iff _ _).2 (c.keys_ends_apart spec es et hk)
    obtain ⟨v, hv⟩ := (Table.mem_keys_iff _ _).1 hk
    rw [get?_composed, ht, Option.none_or]
    show ((c.startFound spec es).params.get? k).or _ = _
    rw [hv, Option.some_or]
  endKept k hk := by
    obtain ⟨v, hv⟩ := (Table.mem_keys_iff _ _).1 hk
    rw [get?_composed]
    show ((c.endFound spec et).params.get? k).or _ = _
    rw [hv, Option.some_or]

/-- The assembly of the relationship alone. -/
def assembleEdge : EdgeOperation → Except ExtractError Fragment
  | .create => c.assembler.assemble spec.edge spec.excludes
  | .update choice =>
    c.assembler.assembleWithMatch spec.edge spec.excludes (choice.resolve c.clause)

variable {es et er}

/-- **A relationship statement is two standalone matches and one assembly.** The ends are matched as
a node composer matches them under their own variables and prefixes, and keep all they bind. -/
theorem perform_joins
    (hs : spec.startNode.record.extract c.assembler.tagName [] = .ok es)
    (ht : spec.endNode.record.extract c.assembler.tagName [] = .ok et)
    (hr : spec.edge.extract c.assembler.tagName spec.excludes = .ok er) :
    ∃ s t r f,
      (NodeComposer.mk ⟨c.assembler.tagName, c.startVar, "start_"⟩
        (spec.startNode.clause.resolve c.clause)).find spec.startNode.record spec.startNode.label
          .default false = .ok s ∧
      (NodeComposer.mk ⟨c.assembler.tagName, c.endVar, "end_"⟩
        (spec.endNode.clause.resolve c.clause)).find spec.endNode.record spec.endNode.label
          .default false = .ok t ∧
      c.assembleEdge spec op = .ok r ∧ c.perform spec op = .ok f ∧ f.Joins r s t := by
  have hf : c.perform spec op = .ok (c.composed spec op es et er) :=
    (c.perform_ok spec op).2 ⟨es, et, er, hs, ht, hr, rfl⟩
  have hS := NodeComposer.perform_ok (f := c.startFound spec es)
    ⟨c.startAssembler, spec.startNode.clause.resolve c.clause⟩ spec.startNode.record
    (.find spec.startNode.label .default false)
  have hT := NodeComposer.perform_ok (f := c.endFound spec et)
    ⟨c.endAssembler, spec.endNode.clause.resolve c.clause⟩ spec.endNode.record
    (.find spec.endNode.label .default false)
  have hR : c.assembleEdge spec op = .ok (c.edgeMatched op er) := by
    cases op with
    | create =>
      rw [assembleEdge, Assembler.assemble_eq, Assembler.assembleWithMatch_eq, hr]
      rfl
    | update choice =>
      rw [assembleEdge, Assembler.assembleWithMatch_eq, hr]
      rfl
  exact ⟨_, _, _, _, hS.2 ⟨es, hs, rfl⟩, hT.2 ⟨et, ht, rfl⟩, hR, hf,
    c.joins_composed spec op es et er⟩

/-- The relationship has a tag that spells a parameter of its start: the parameter stands where the
relationship writes it first, and has the value of the start. -/
theorem perform_joins_taken :
    ∃ f, (⟨⟨"json", "flava", ""⟩, "start", "end", .native "id"⟩ : EdgeComposer).perform
        (.friends "start_id" []) .create = .ok f ∧
      f.setList.text = "flava.start_id = $start_id" ∧ f.params.keys = ["start_id", "end_id"] ∧
      f.params.get? "start_id" = some (.string "a") := by
  obtain ⟨s, t, r, f, hs, ht, hr, hf, hj⟩ :=
    perform_joins ⟨⟨"json", "flava", ""⟩, "start", "end", .native "id"⟩ (.friends "start_id" [])
      .create rfl rfl rfl
  obtain rfl := Except.ok.inj hs
  obtain rfl := Except.ok.inj ht
  obtain rfl := Except.ok.inj hr
  refine ⟨f, hf, ?_, ?_, ?_⟩
  · rw [hj.setList]
    decide
  · rw [hj.keys]
    rfl
  · rw [hj.get?]
    rfl

end EdgeComposer

end CypherFragments
