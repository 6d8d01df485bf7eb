import CypherFragments.Proofs.Operation
import CypherFragments.Proofs.Table
import Mathlib.Data.List.Nodup

/-!
# What an assembly binds

Which parameters the fragment of an extract has values for, and which fields the values come from:

* `Extract.valueFor?_isSome`: a tag has a value iff a field carries it, written or left out.
* `Assembler.mem_keys_matched`: a parameter is bound iff it belongs to a written field or to an
  entry of the clause that some field backs.
* `Assembler.get?_matched`: if no two fields share a tag, the value is that of the one field that
  binds the parameter.
* `Assembler.keys_matched`, `Assembler.get?_matched_tag`: the parameters in their order, and the
  value of each of them, whether tags are repeated or not.
-/

set_option autoImplicit false

namespace CypherFragments

/-! ## Tags -/

/-- Some entry compares with the tag. -/
def MatchClause.Names (c : MatchClause) (tag : String) : Prop := ∃ m ∈ c.entries, m.param = tag

instance (c : MatchClause) (tag : String) : Decidable (c.Names tag) :=
  inferInstanceAs (Decidable (∃ m ∈ c.entries, m.param = tag))

/-- The fields that carry the tag. -/
def ofTag (tag : String) (l : List BoundField) : List BoundField := l.filter (·.tag = tag)

theorem mem_ofTag {tag : String} {l : List BoundField} {f : BoundField} :
    f ∈ ofTag tag l ↔ f ∈ l ∧ f.tag = tag := by
  rw [ofTag, List.mem_filter, decide_eq_true_eq]

theorem ofTag_reverse (tag : String) (l : List BoundField) :
    ofTag tag l.reverse = (ofTag tag l).reverse := List.filter_reverse

/-! ## Extracts -/

namespace Extract

/-- All fields that have been read, written or left out. -/
def bound (e : Extract) : List BoundField := e.fields ++ e.excluded

/-- No two fields share a tag. -/
def DistinctTags (e : Extract) : Prop := (e.bound.map (·.tag)).Nodup

instance (e : Extract) : Decidable e.DistinctTags :=
  inferInstanceAs (Decidable (e.bound.map (·.tag)).Nodup)

variable {e : Extract}

theorem mem_bound_of_fields {f : BoundField} (h : f ∈ e.fields) : f ∈ e.bound :=
  List.mem_append_left _ h

theorem mem_bound_of_excluded {f : BoundField} (h : f ∈ e.excluded) : f ∈ e.bound :=
  List.mem_append_right _ h

theorem exists_of_valueFor? {tag : String} {v : Json} (h : e.valueFor? tag = some v) :
    ∃ f ∈ e.bound, f.tag = tag ∧ f.value = v := by
  obtain ⟨f, hf, hv⟩ := Option.map_eq_some_iff.1 h
  have ht := List.find?_some hf
  exact ⟨f, List.mem_of_find?_eq_some hf, beq_iff_eq.1 ht, hv⟩

theorem valueFor?_isSome {tag : String} :
    (e.valueFor? tag).isSome ↔ ∃ f ∈ e.bound, f.tag = tag := by
  unfold valueFor?
  rw [Option.isSome_map, List.find?_isSome]
  simp only [beq_iff_eq]
  rfl

theorem valueFor?_eq_none {tag : String} :
    e.valueFor? tag = none ↔ ¬ ∃ f ∈ e.bound, f.tag = tag := by
  rw [← valueFor?_isSome, Option.not_isSome_iff_eq_none]

theorem valueFor?_eq (tag : String) :
    e.valueFor? tag = (ofTag tag e.bound).head?.map (·.value) := by
  rw [ofTag, List.head?_filter]
  rfl

theorem DistinctTags.eq (h : e.DistinctTags) {f g : BoundField} (hf : f ∈ e.bound)
    (hg : g ∈ e.bound) (ht : f.tag = g.tag) : f = g :=
  List.inj_on_of_nodup_map h hf hg ht

theorem DistinctTags.valueFor? (h : e.DistinctTags) {f : BoundField} (hf : f ∈ e.bound) :
    e.valueFor? f.tag = some f.value := by
  obtain ⟨v, hv⟩ := Option.isSome_iff_exists.1 (valueFor?_isSome.2 ⟨f, hf, rfl⟩)
  obtain ⟨g, hg, ht, rfl⟩ := exists_of_valueFor? hv
  rw [hv, h.eq hg hf ht]

end Extract

namespace Record

variable {r : Record} {family : String} {excludes : List String} {e : Extract}

theorem extract_ok :
    r.extract family excludes = .ok e ↔ ∃ name fields,
      r.entityName = .ok name ∧ r.boundFields family = .ok fields ∧
      e = ⟨name, fields.filter (!excludes.contains ·.tag),
        fields.filter (excludes.contains ·.tag)⟩ := by
  unfold extract
  simp only [Except.bind_eq_ok, pure, Except.pure, Except.ok.injEq]
  constructor
  · rintro ⟨name, hn, fields, hf, rfl⟩
    exact ⟨name, fields, hn, hf, rfl⟩
  · rintro ⟨name, fields, hn, hf, rfl⟩
    exact ⟨name, hn, fields, hf, rfl⟩

/-- Excludes move fields, they drop none. -/
theorem mem_bound {fields : List BoundField} (h : r.extract family excludes = .ok e)
    (hf : r.boundFields family = .ok fields) (f : BoundField) : f ∈ e.bound ↔ f ∈ fields := by
  obtain ⟨name, l, -, hl, rfl⟩ := extract_ok.1 h
  obtain rfl := Except.ok.inj (hl.symm.trans hf)
  simp only [Extract.bound, List.mem_append, List.mem_filter, Bool.not_eq_true']
  constructor
  · rintro (⟨h, -⟩ | ⟨h, -⟩) <;> exact h
  · intro h
    cases excludes.contains f.tag <;> simp [h]

theorem excluded_eq_nil (h : r.extract family [] = .ok e) : e.excluded = [] := by
  obtain ⟨_, l, -, -, rfl⟩ := extract_ok.1 h
  exact List.filter_eq_nil_iff.2 fun _ _ => by simp

end Record

/-! ## Bound parameters -/

namespace Assembler

variable (a : Assembler) (clause : MatchClause) (e : Extract)

variable {e} in
theorem assembleWithMatch_of_extract {r : Record} {excludes : List String}
    (h : r.extract a.tagName excludes = .ok e) :
    a.assembleWithMatch r excludes clause = .ok (a.matched clause e) := by
  rw [assembleWithMatch_eq, h]
  rfl

/-- The parameters in the order in which they are written. -/
def writes : List (String × Json) :=
  e.fields.map (fun f => (a.paramPrefix ++ f.tag, f.value)) ++ a.matchParams e clause

theorem params_matched : (a.matched clause e).params = .ofList (a.writes clause e) :=
  (Table.insertAll_append _ _ _).symm

variable {a clause e}

theorem mem_matchParams {k : String} {v : Json} :
    (k, v) ∈ a.matchParams e clause ↔
      ∃ m ∈ clause.entries, e.valueFor? m.param = some v ∧ a.paramPrefix ++ m.param = k := by
  simp only [matchParams, MatchEntry.prefixedParam, List.mem_filterMap, Option.map_eq_some_iff,
    Prod.mk.injEq]
  constructor
  · rintro ⟨m, hm, w, hw, hk, rfl⟩
    exact ⟨m, hm, hw, hk⟩
  · rintro ⟨m, hm, hw, hk⟩
    exact ⟨m, hm, v, hw, hk, rfl⟩

theorem mem_keys_matched {k : String} :
    k ∈ (a.matched clause e).params.keys ↔
      (∃ f ∈ e.fields, a.paramPrefix ++ f.tag = k) ∨
      ∃ m ∈ clause.entries, (∃ f ∈ e.bound, f.tag = m.param) ∧ a.paramPrefix ++ m.param = k := by
  rw [params_matched, Table.ofList, Table.mem_keys_insertAll, writes, List.map_append,
    List.mem_append, List.map_map]
  simp only [Table.keys_empty, List.not_mem_nil, false_or, List.mem_map, Function.comp]
  refine or_congr Iff.rfl ⟨?_, ?_⟩
  · rintro ⟨⟨k', v⟩, hp, rfl⟩
    obtain ⟨m, hm, hv, hk⟩ := mem_matchParams.1 hp
    exact ⟨m, hm, Extract.valueFor?_isSome.1 (hv ▸ rfl), hk⟩
  · rintro ⟨m, hm, hf, hk⟩
    obtain ⟨v, hv⟩ := Option.isSome_iff_exists.1 (Extract.valueFor?_isSome.2 hf)
    exact ⟨(k, v), mem_matchParams.2 ⟨m, hm, hv, hk⟩, rfl⟩

/-- The parameter of an entry is bound iff some field backs the entry. -/
theorem mem_keys_matched_entry {m : MatchEntry} (hm : m ∈ clause.entries) :
    a.paramPrefix ++ m.param ∈ (a.matched clause e).params.keys ↔
      ∃ f ∈ e.bound, f.tag = m.param := by
  rw [mem_keys_matched]
  constructor
  · rintro (⟨f, hf, hk⟩ | ⟨m', -, ⟨f, hf, ht⟩, hk⟩)
    · exact ⟨f, Extract.mem_bound_of_fields hf, (String.append_right_inj _).1 hk⟩
    · exact ⟨f, hf, ht.trans ((String.append_right_inj _).1 hk)⟩
  · intro hf
    exact .inr ⟨m, hm, hf, rfl⟩

variable (a clause e)

/-- The field gives its value to the parameter: it is written, or it is left out and an entry of
the clause names its tag. -/
def Binds (k : String) (f : BoundField) : Prop :=
  a.paramPrefix ++ f.tag = k ∧
    (f ∈ e.fields ∨ f ∈ e.excluded ∧ ∃ m ∈ clause.entries, m.param = f.tag)

variable {a clause e}

theorem mem_writes (h : e.DistinctTags) {k : String} {v : Json} :
    (k, v) ∈ a.writes clause e ↔ ∃ f, a.Binds clause e k f ∧ v = f.value := by
  rw [writes, List.mem_append, mem_matchParams]
  simp only [List.mem_map, Prod.mk.injEq]
  constructor
  · rintro (⟨f, hf, hk, rfl⟩ | ⟨m, hm, hv, hk⟩)
    · exact ⟨f, ⟨hk, .inl hf⟩, rfl⟩
    · obtain ⟨f, hf, ht, rfl⟩ := Extract.exists_of_valueFor? hv
      refine ⟨f, ⟨ht ▸ hk, ?_⟩, rfl⟩
      exact (List.mem_append.1 hf).imp id fun hf => ⟨hf, m, hm, ht.symm⟩
  · rintro ⟨f, ⟨hk, hf | ⟨hf, m, hm, ht⟩⟩, rfl⟩
    · exact .inl ⟨f, hf, hk, rfl⟩
    · refine .inr ⟨m, hm, ?_, ht ▸ hk⟩
      rw [ht]
      exact h.valueFor? (Extract.mem_bound_of_excluded hf)

theorem Binds.mem_bound {k : String} {f : BoundField} (h : a.Binds clause e k f) :
    f ∈ e.bound :=
  List.mem_append.2 (h.2.imp id And.left)

theorem singleValued_writes (h : e.DistinctTags) : SingleValued (a.writes clause e) := by
  intro k v w hv hw
  obtain ⟨f, hf, rfl⟩ := (mem_writes h).1 hv
  obtain ⟨g, hg, rfl⟩ := (mem_writes h).1 hw
  have ht : f.tag = g.tag := (String.append_right_inj _).1 (hf.1.trans hg.1.symm)
  rw [h.eq hf.mem_bound hg.mem_bound ht]

/-- **A bound parameter holds the value of the field that binds it.** -/
theorem get?_matched (h : e.DistinctTags) {k : String} {v : Json} :
    (a.matched clause e).params.get? k = some v ↔ ∃ f, a.Binds clause e k f ∧ v = f.value := by
  rw [params_matched, Table.get?_ofList_eq_some (singleValued_writes h), mem_writes h]

theorem get?_matched_of_mem (h : e.DistinctTags) {g : BoundField} (hg : g ∈ e.fields) :
    (a.matched clause e).params.get? (a.paramPrefix ++ g.tag) = some g.value :=
  (get?_matched h).2 ⟨g, ⟨rfl, .inl hg⟩, rfl⟩

/-! ## Repeated tags -/

/-- A parameter takes its value from the first field of its tag in the list. -/
theorem lookup_params (p tag : String) (l : List BoundField) :
    (l.map fun f => (p ++ f.tag, f.value)).lookup (p ++ tag) =
      (ofTag tag l).head?.map (·.value) := by
  rw [lookup_eq_find?, List.find?_map, Option.map_map, ofTag, List.head?_filter]
  simp only [Function.comp_def, String.append_right_inj]

/-- Entries that compare with the same tag bind the same value. -/
theorem singleValued_matchParams : SingleValued (a.matchParams e clause) := by
  intro k v w hv hw
  obtain ⟨m, -, hv, hk⟩ := mem_matchParams.1 hv
  obtain ⟨m', -, hw, hk'⟩ := mem_matchParams.1 hw
  rw [(String.append_right_inj _).1 (hk.trans hk'.symm)] at hv
  exact Option.some.inj (hv.symm.trans hw)

theorem lookup_matchParams (tag : String) :
    (a.matchParams e clause).reverse.lookup (a.paramPrefix ++ tag) =
      if clause.Names tag then e.valueFor? tag else none := by
  apply Option.ext
  intro v
  rw [lookup_reverse singleValued_matchParams, lookup_eq_some_iff singleValued_matchParams,
    mem_matchParams]
  simp only [String.append_right_inj]
  split
  · rename_i hn
    obtain ⟨m, hm, rfl⟩ := hn
    constructor
    · rintro ⟨m', -, hv, ht⟩
      exact ht ▸ hv
    · exact fun hv => ⟨m, hm, hv, rfl⟩
  · rename_i hn
    constructor
    · rintro ⟨m, hm, -, ht⟩
      exact absurd ⟨m, hm, ht⟩ hn
    · exact fun h => nomatch h

/-- The fields are written first, so the last of them counts, but over it goes the first field of
the tag if the clause compares with it. -/
theorem get?_matched_tag (tag : String) :
    (a.matched clause e).params.get? (a.paramPrefix ++ tag) =
      if clause.Names tag then e.valueFor? tag
      else (ofTag tag e.fields).getLast?.map (·.value) := by
  rw [params_matched, Table.get?_ofList, writes, List.reverse_append, List.lookup_append,
    lookup_matchParams, ← List.map_reverse, lookup_params, ofTag_reverse, List.head?_reverse]
  split
  · cases hv : e.valueFor? tag with
    | some v => rfl
    | none =>
      -- The entry writes nothing, but then there is no written field that would show through.
      have hf : ofTag tag e.fields = [] := by
        refine List.eq_nil_iff_forall_not_mem.2 fun f hf => Extract.valueFor?_eq_none.1 hv ?_
        obtain ⟨hf, ht⟩ := mem_ofTag.1 hf
        exact ⟨f, Extract.mem_bound_of_fields hf, ht⟩
      rw [hf]
      rfl
  · rw [Option.none_or]

/-- An entry binds a parameter if a field backs it. -/
theorem keys_matchParams :
    (a.matchParams e clause).map (·.1) =
      (clause.entries.filter fun m => ∃ f ∈ e.bound, f.tag = m.param).map
        (a.paramPrefix ++ ·.param) := by
  rw [matchParams, List.map_filterMap, ← List.filterMap_eq_map, List.filterMap_filter]
  refine List.filterMap_congr fun m _ => ?_
  rw [Option.map_map]
  cases hv : e.valueFor? m.param with
  | some v =>
    rw [if_pos (decide_eq_true (Extract.valueFor?_isSome.1 (hv ▸ rfl)))]
    rfl
  | none =>
    rw [if_neg (by simpa using Extract.valueFor?_eq_none.1 hv)]
    rfl

theorem mem_keys_matched_tag {tag : String} :
    a.paramPrefix ++ tag ∈ (a.matched clause e).params.keys ↔
      (∃ f ∈ e.fields, f.tag = tag) ∨ clause.Names tag ∧ ∃ f ∈ e.bound, f.tag = tag := by
  rw [mem_keys_matched]
  simp only [String.append_right_inj]
  refine or_congr Iff.rfl ⟨?_, ?_⟩
  · rintro ⟨m, hm, hf, rfl⟩
    exact ⟨⟨m, hm, rfl⟩, hf⟩
  · rintro ⟨⟨m, hm, rfl⟩, hf⟩
    exact ⟨m, hm, hf, rfl⟩

theorem keys_matched :
    (a.matched clause e).params.keys =
      (e.fields.map (a.paramPrefix ++ ·.tag) ++
        (clause.entries.filter fun m => ∃ f ∈ e.bound, f.tag = m.param).map
          (a.paramPrefix ++ ·.param)).eraseDups := by
  rw [params_matched, Table.ofList, Table.keys_insertAll, Table.keys_empty, List.nil_append, writes,
    List.map_append, List.map_map, keys_matchParams]
  rfl

end Assembler

end CypherFragments
