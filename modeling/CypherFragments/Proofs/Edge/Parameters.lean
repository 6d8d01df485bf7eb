import CypherFragments.Proofs.Assembly
import CypherFragments.Record.JsonRecord

/-!
# The parameters of a relationship statement

Three records share one table of parameters: the relationship under the configured prefix, the two
ends under prefixes of their own. What the ends bind goes over what the relationship binds.

* `EdgeComposer.get?_composed`: whose value a parameter has.
* `Compiler.params_callEdge`: the ends keep what they bind, and the relationship keeps what it binds
  unless an end binds the same parameter. What an end does not bind, only the relationship can.

Nothing keeps the configured prefix and the tags of the relationship from spelling a parameter of an
end (`Compiler.params_callEdge_clash`).
-/

set_option autoImplicit false

namespace CypherFragments

/-! ## The prefixes of the ends -/

theorem startPrefix_append_ne (p q : String) : startPrefix ++ p ≠ endPrefix ++ q := by
  intro h
  have hl := congrArg String.toList h
  rw [String.toList_append, String.toList_append] at hl
  exact absurd (List.cons.inj hl).1 (by decide)

/-- A written field of the extract gives its value to the parameter. -/
def Extract.Writes (e : Extract) (paramPrefix k : String) : Prop :=
  ∃ g ∈ e.fields, paramPrefix ++ g.tag = k

/-- Some end of a relationship gives a value to the parameter. -/
def Extract.EndsWrite (es et : Extract) (k : String) : Prop :=
  es.Writes startPrefix k ∨ et.Writes endPrefix k

namespace Assembler

variable {a : Assembler} {clause : MatchClause} {e : Extract}

/-- Where nothing is left out, a parameter is bound by a written field or not at all. -/
theorem get?_matched_eq_none (h : e.DistinctTags) (hx : e.excluded = []) {k : String}
    (hk : ¬ e.Writes a.paramPrefix k) : (a.matched clause e).params.get? k = none := by
  rw [Option.eq_none_iff_forall_ne_some]
  intro v hv
  obtain ⟨g, ⟨ht, hg | ⟨hg, -⟩⟩, -⟩ := (get?_matched h).1 hv
  · exact hk ⟨g, hg, ht⟩
  · rw [hx] at hg
    cases hg

end Assembler

/-! ## Merged parameters -/

namespace EdgeComposer

variable (c : EdgeComposer) (spec : EdgeSpec) (op : EdgeOperation) {es et er : Extract}

/-- The end of the relationship counts first, its start next, the relationship itself last. -/
theorem get?_composed (k : String) :
    (c.composed spec op es et er).params.get? k =
      ((c.endMatched spec et).params.get? k).or
        (((c.startMatched spec es).params.get? k).or ((c.edgeMatched op er).params.get? k)) := by
  show (((c.edgeMatched op er).params.merge (c.startMatched spec es).params).merge
    (c.endMatched spec et).params).get? k = _
  rw [Table.get?_merge, Table.get?_merge]

variable (hs : spec.startNode.record.extract c.assembler.tagName [] = .ok es)
variable (ht : spec.endNode.record.extract c.assembler.tagName [] = .ok et)
variable (ds : es.DistinctTags) (dt : et.DistinctTags)

include hs in
theorem get?_startMatched_eq_none (ds : es.DistinctTags) {k : String}
    (hk : ¬ es.Writes startPrefix k) : (c.startMatched spec es).params.get? k = none :=
  Assembler.get?_matched_eq_none ds (Record.excluded_eq_nil hs) hk

include ht in
theorem get?_endMatched_eq_none (dt : et.DistinctTags) {k : String}
    (hk : ¬ et.Writes endPrefix k) : (c.endMatched spec et).params.get? k = none :=
  Assembler.get?_matched_eq_none dt (Record.excluded_eq_nil ht) hk

include hs ht ds dt in
/-- A parameter that no end binds is one of the relationship. -/
theorem get?_composed_of_not_endsWrite {k : String} (hk : ¬ es.EndsWrite et k) :
    (c.composed spec op es et er).params.get? k = (c.edgeMatched op er).params.get? k := by
  obtain ⟨hks, hkt⟩ := not_or.1 hk
  rw [get?_composed, c.get?_endMatched_eq_none spec ht dt hkt,
    c.get?_startMatched_eq_none spec hs ds hks, Option.none_or, Option.none_or]

include ht ds dt in
theorem get?_composed_start {g : BoundField} (hg : g ∈ es.fields) :
    (c.composed spec op es et er).params.get? (startPrefix ++ g.tag) = some g.value := by
  have hk : ¬ et.Writes endPrefix (startPrefix ++ g.tag) :=
    fun ⟨_, _, h⟩ => startPrefix_append_ne _ _ h.symm
  have hv : (c.startMatched spec es).params.get? (startPrefix ++ g.tag) = some g.value :=
    Assembler.get?_matched_of_mem ds hg
  rw [get?_composed, c.get?_endMatched_eq_none spec ht dt hk, hv, Option.none_or, Option.some_or]

include dt in
theorem get?_composed_end {g : BoundField} (hg : g ∈ et.fields) :
    (c.composed spec op es et er).params.get? (endPrefix ++ g.tag) = some g.value := by
  have hv : (c.endMatched spec et).params.get? (endPrefix ++ g.tag) = some g.value :=
    Assembler.get?_matched_of_mem dt hg
  rw [get?_composed, hv, Option.some_or]

end EdgeComposer

theorem Extract.not_endsWrite_start {es et : Extract} {p : String}
    (hp : ∀ g ∈ es.fields, g.tag ≠ p) : ¬ es.EndsWrite et (startPrefix ++ p) := by
  rintro (⟨g, hg, h⟩ | ⟨g, -, h⟩)
  · exact hp g hg ((String.append_right_inj _).1 h)
  · exact startPrefix_append_ne _ _ h.symm

theorem Extract.not_endsWrite_end {es et : Extract} {p : String}
    (hp : ∀ g ∈ et.fields, g.tag ≠ p) : ¬ es.EndsWrite et (endPrefix ++ p) := by
  rintro (⟨g, -, h⟩ | ⟨g, hg, h⟩)
  · exact startPrefix_append_ne _ _ h
  · exact hp g hg ((String.append_right_inj _).1 h)

/-! ## The methods of the compiler -/

/-- A relationship between two users with one property, its start found by a field it lacks. -/
def EdgeSpec.friends (tag : String) (excludes : List String) : EdgeSpec where
  startNode :=
    { record := JsonRecord.record ⟨"User", .object [("id", .string "a")]⟩
      clause := .custom ⟨[⟨"+v+.x", "x"⟩]⟩ }
  endNode := { record := JsonRecord.record ⟨"User", .object [("id", .string "b")]⟩ }
  edge := JsonRecord.record ⟨"Knows", .object [(tag, .string "own")]⟩
  excludes := excludes

namespace Compiler

variable (c : Compiler) (m : EdgeMethod) (spec : EdgeSpec) {es et er : Extract}

theorem callEdge_ok (hs : spec.startNode.record.extract c.config.tagName [] = .ok es)
    (ht : spec.endNode.record.extract c.config.tagName [] = .ok et)
    (hr : spec.edge.extract c.config.tagName spec.excludes = .ok er) :
    c.callEdge spec m = .ok (c.edges.composed (m.spec spec) m.operation es et er) := by
  rw [callEdge_eq]
  refine (EdgeComposer.perform_ok _ _ _).2 ⟨es, et, er, ?_⟩
  cases m <;> exact ⟨hs, ht, hr, rfl⟩

/-- **The parameters of a relationship statement.** Each end keeps the values of its fields. The
relationship keeps the value of a field unless an end binds the same parameter. A parameter under
the prefix of an end that no field of this end backs has a value only if the relationship gives it
one, never from the other end. -/
theorem params_callEdge (hs : spec.startNode.record.extract c.config.tagName [] = .ok es)
    (ht : spec.endNode.record.extract c.config.tagName [] = .ok et)
    (hr : spec.edge.extract c.config.tagName spec.excludes = .ok er)
    (ds : es.DistinctTags) (dt : et.DistinctTags) (dr : er.DistinctTags) :
    ∃ f, c.callEdge spec m = .ok f ∧
      (∀ g ∈ er.fields, ¬ es.EndsWrite et (c.config.paramPrefix ++ g.tag) →
        f.params.get? (c.config.paramPrefix ++ g.tag) = some g.value) ∧
      (∀ g ∈ es.fields, f.params.get? (startPrefix ++ g.tag) = some g.value) ∧
      (∀ g ∈ et.fields, f.params.get? (endPrefix ++ g.tag) = some g.value) ∧
      (∀ p, (∀ g ∈ es.fields, g.tag ≠ p) → ∀ v, f.params.get? (startPrefix ++ p) = some v ↔
        ∃ g, c.assembler.Binds (m.operation.clause c.config.clause) er (startPrefix ++ p) g ∧
          v = g.value) ∧
      ∀ p, (∀ g ∈ et.fields, g.tag ≠ p) → ∀ v, f.params.get? (endPrefix ++ p) = some v ↔
        ∃ g, c.assembler.Binds (m.operation.clause c.config.clause) er (endPrefix ++ p) g ∧
          v = g.value := by
  have hs' : (m.spec spec).startNode.record.extract c.edges.assembler.tagName [] = .ok es := by
    cases m <;> exact hs
  have ht' : (m.spec spec).endNode.record.extract c.edges.assembler.tagName [] = .ok et := by
    cases m <;> exact ht
  have own {k : String} (hk : ¬ es.EndsWrite et k) :
      (c.edges.composed (m.spec spec) m.operation es et er).params.get? k =
        (c.edges.edgeMatched m.operation er).params.get? k :=
    c.edges.get?_composed_of_not_endsWrite _ _ hs' ht' ds dt hk
  refine ⟨_, c.callEdge_ok m spec hs ht hr, fun g hg hk => ?_, fun g hg => ?_, fun g hg => ?_,
    fun p hp v => ?_, fun p hp v => ?_⟩
  · rw [own hk]
    exact Assembler.get?_matched_of_mem dr hg
  · exact c.edges.get?_composed_start _ _ ht' ds dt hg
  · exact c.edges.get?_composed_end _ _ dt hg
  · rw [own (Extract.not_endsWrite_start hp)]
    exact Assembler.get?_matched dr
  · rw [own (Extract.not_endsWrite_end hp)]
    exact Assembler.get?_matched dr

/-- A tag that spells no parameter of an end. -/
theorem params_callEdge_apart : ∃ f, (⟨.default, by decide⟩ : Compiler).callEdge
      (.friends "since" []) .createBy = .ok f ∧
    f.params.get? "since" = some (.string "own") ∧
    f.params.get? "start_id" = some (.string "a") ∧
    f.params.get? "end_id" = some (.string "b") ∧ f.params.get? "start_x" = none := by
  obtain ⟨f, hf, hr, hs, ht, hx, -⟩ := params_callEdge ⟨.default, by decide⟩ .createBy
    (.friends "since" []) rfl rfl rfl (by decide) (by decide) (by decide)
  refine ⟨f, hf, hr _ (.head _) ?_, hs _ (.head _), ht _ (.head _), ?_⟩
  · rintro (⟨g, hg, h⟩ | ⟨g, hg, h⟩)
    · obtain rfl := List.mem_singleton.1 hg
      exact absurd h (by decide)
    · obtain rfl := List.mem_singleton.1 hg
      exact absurd h (by decide)
  · rw [Option.eq_none_iff_forall_ne_some]
    intro v hv
    obtain ⟨g, ⟨h, hg | ⟨hg, -⟩⟩, -⟩ := (hx "x" (by decide) v).1 hv
    · obtain rfl := List.mem_singleton.1 hg
      exact absurd h (by decide)
    · cases hg

/-- Tags of the relationship that spell parameters of its start: the value of `start_id` is that of
the start, and the entry of the start that no field backs takes the value of `start_x`. -/
theorem params_callEdge_clash :
    (∃ es et er f, (EdgeSpec.friends "start_id" []).startNode.record.extract "json" [] = .ok es ∧
      (EdgeSpec.friends "start_id" []).endNode.record.extract "json" [] = .ok et ∧
      (EdgeSpec.friends "start_id" []).edge.extract "json" [] = .ok er ∧
      es.DistinctTags ∧ et.DistinctTags ∧ er.DistinctTags ∧
      (⟨.default, by decide⟩ : Compiler).callEdge (.friends "start_id" []) .createBy = .ok f ∧
      ∃ g ∈ er.fields, g.tag = "start_id" ∧ g.value = .string "own" ∧
        f.params.get? "start_id" = some (.string "a")) ∧
    ∃ es et er f,
      (EdgeSpec.friends "start_x" ["start_x"]).startNode.record.extract "json" [] = .ok es ∧
      (EdgeSpec.friends "start_x" ["start_x"]).endNode.record.extract "json" [] = .ok et ∧
      (EdgeSpec.friends "start_x" ["start_x"]).edge.extract "json" ["start_x"] = .ok er ∧
      es.DistinctTags ∧ et.DistinctTags ∧ er.DistinctTags ∧
      (⟨.default, by decide⟩ : Compiler).callEdge (.friends "start_x" ["start_x"])
        (.updateBy ⟨[⟨"+v+.x", "start_x"⟩]⟩) = .ok f ∧
      (∀ g ∈ es.fields, g.tag ≠ "x") ∧ f.params.get? "start_x" = some (.string "own") := by
  constructor
  · refine ⟨_, _, _, _, rfl, rfl, rfl, by decide, by decide, by decide, rfl, ?_⟩
    exact ⟨_, .head _, rfl, rfl, rfl⟩
  · exact ⟨_, _, _, _, rfl, rfl, rfl, by decide, by decide, by decide, rfl, by decide, rfl⟩

end Compiler

end CypherFragments
