import CypherFragments.Proofs.Excludes

/-!
# The parameters of an assembly

An assembly writes its parameters in two rounds: the written fields in order, then the entries of
the clause that a field backs. A parameter keeps the place of its first write. If fields share a
tag, the last of the written ones counts, but the clause compares with the first of all and puts
its value in the place of the other.

* `Assembler.params_assembleWithMatch`: the keys in their order and the value of each.
* `Assembler.written_assembleWithMatch`: what a clause changes of the values that are written.
-/

set_option autoImplicit false

namespace CypherFragments.Assembler

variable (a : Assembler) (clause : MatchClause)

/-! ## Keys and values -/

/-- **The parameters of an assembly.** Their keys are those of the written fields, then those of the
entries that a field backs, each at its first place. The value is that of the first field of the tag
if the clause compares with it, and else that of the last one which is written. So a tag that is
left out has a parameter iff the clause compares with it, and an entry that no field backs has
none. -/
theorem params_assembleWithMatch (excludes : List String) {r : Record} {name : String}
    {l : List BoundField} (hn : r.entityName = .ok name) (hl : r.boundFields a.tagName = .ok l) :
    ∃ f, a.assembleWithMatch r excludes clause = .ok f ∧
      f.params.keys =
        ((l.filter (·.tag ∉ excludes)).map (a.paramPrefix ++ ·.tag) ++
          (clause.entries.filter fun m => ∃ g ∈ l, g.tag = m.param).map
            (a.paramPrefix ++ ·.param)).eraseDups ∧
      (∀ tag, f.params.get? (a.paramPrefix ++ tag) =
        if clause.Names tag then (ofTag tag l).head?.map (·.value)
        else (ofTag tag (l.filter (·.tag ∉ excludes))).getLast?.map (·.value)) ∧
      (∀ g ∈ l, g.tag ∈ excludes →
        (a.paramPrefix ++ g.tag ∈ f.params.keys ↔ clause.Names g.tag)) ∧
      ∀ m ∈ clause.entries, (∀ g ∈ l, g.tag ≠ m.param) →
        a.paramPrefix ++ m.param ∉ f.params.keys := by
  obtain ⟨e, he⟩ : ∃ e, r.extract a.tagName excludes = .ok e :=
    ⟨_, Record.extract_ok.2 ⟨name, l, hn, hl, rfl⟩⟩
  have hf : e.fields = l.filter (·.tag ∉ excludes) := Record.fields_extract he hl
  have hb (tag : String) : (∃ g ∈ e.bound, g.tag = tag) ↔ ∃ g ∈ l, g.tag = tag :=
    exists_congr fun g => and_congr_left' (Record.mem_bound he hl g)
  refine ⟨a.matched clause e, a.assembleWithMatch_of_extract clause he, ?_, fun tag => ?_,
    fun g hg hx => ?_, fun m hm hm' => ?_⟩
  · simp only [keys_matched, hf, hb]
  · rw [get?_matched_tag, Record.valueFor?_extract he hl, hf]
  · rw [mem_keys_matched_tag, hb, hf]
    refine ⟨fun h => h.elim (fun ⟨g', hg', ht⟩ => ?_) And.left, fun h => .inr ⟨h, g, hg, rfl⟩⟩
    exact absurd (ht ▸ hx) (of_decide_eq_true (List.mem_filter.1 hg').2)
  · rw [mem_keys_matched_tag, hb]
    rintro (⟨g, hg, ht⟩ | ⟨-, g, hg, ht⟩)
    · rw [hf] at hg
      exact hm' g (List.mem_filter.1 hg).1 ht
    · exact hm' g hg ht

/-- The names are left out, the clause compares with them twice and with a tag that no field has. -/
theorem params_assembleWithMatch_author : ∃ f,
    (⟨"json", "u", "p_"⟩ : Assembler).assembleWithMatch (Schema.author.record ("Twain", "Clemens"))
      ["name"] ⟨[⟨"a", "name"⟩, ⟨"b", "age"⟩, ⟨"c", "name"⟩, ⟨"d", "id"⟩]⟩ = .ok f ∧
    f.params.keys = ["p_id", "p_name"] ∧ f.params.get? "p_name" = some (.string "Twain") ∧
    "p_age" ∉ f.params.keys := by
  obtain ⟨f, hf, hk, hv, -, hu⟩ :=
    params_assembleWithMatch ⟨"json", "u", "p_"⟩
      ⟨[⟨"a", "name"⟩, ⟨"b", "age"⟩, ⟨"c", "name"⟩, ⟨"d", "id"⟩]⟩ ["name"]
      (r := Schema.author.record ("Twain", "Clemens")) rfl rfl
  exact ⟨f, hf, hk.trans (by decide), (hv "name").trans rfl,
    hu ⟨"b", "age"⟩ (by decide) (by decide)⟩

/-! ## Written values -/

variable {r : Record} {excludes : List String} {e : Extract}

/-- **A clause changes what a repeated tag writes, and nothing else.** The literal and the set list
stay as they are, and so does the value of a written field, unless the clause compares with its tag
and the first and the last field of this tag have different values. -/
theorem written_assembleWithMatch (h : r.extract a.tagName excludes = .ok e) :
    ∃ f g, a.assemble r excludes = .ok f ∧ a.assembleWithMatch r excludes clause = .ok g ∧
      g.createLiteral.text = f.createLiteral.text ∧ g.setList.text = f.setList.text ∧
      ∀ x ∈ e.fields,
        (g.params.get? (a.paramPrefix ++ x.tag) = f.params.get? (a.paramPrefix ++ x.tag) ↔
          (clause.Names x.tag → (ofTag x.tag e.fields).head?.map (·.value) =
            (ofTag x.tag e.fields).getLast?.map (·.value))) := by
  have hf : a.assemble r excludes = .ok (a.matched .empty e) :=
    (a.assemble_eq r excludes).trans (a.assembleWithMatch_of_extract .empty h)
  have hg := a.assembleWithMatch_of_extract clause h
  -- Without a clause the last field counts, with one that names the tag the first does.
  have hn (tag : String) : ¬ MatchClause.empty.Names tag := fun ⟨_, hm, _⟩ => nomatch hm
  refine ⟨_, _, hf, hg, rfl, rfl, fun x hx => ?_⟩
  rw [get?_matched_tag, get?_matched_tag, if_neg (hn x.tag), Extract.valueFor?_of_fields hx]
  by_cases hc : clause.Names x.tag
  · rw [if_pos hc]
    exact ⟨fun h _ => h, fun h => h hc⟩
  · rw [if_neg hc]
    exact ⟨fun _ h => absurd h hc, fun _ => rfl⟩

/-- The identifier is compared with, and no other field has its tag. -/
theorem written_assembleWithMatch_author : ∃ f g,
    (⟨"json", "u", ""⟩ : Assembler).assemble (Schema.author.record ("Twain", "Clemens")) [] =
      .ok f ∧
    (⟨"json", "u", ""⟩ : Assembler).assembleWithMatch (Schema.author.record ("Twain", "Clemens"))
      [] (.native "id") = .ok g ∧
    g.params.get? "id" = f.params.get? "id" ∧ g.params.get? "name" = f.params.get? "name" := by
  have h : (Schema.author.record ("Twain", "Clemens")).extract "json" [] = .ok _ := rfl
  obtain ⟨f, g, hf, hg, -, -, hx⟩ :=
    written_assembleWithMatch ⟨"json", "u", ""⟩ (.native "id") h
  refine ⟨f, g, hf, hg, (hx _ (.tail _ (.head _))).2 fun _ => rfl,
    (hx _ (.head _)).2 fun h => absurd h (by decide)⟩

/-- The set list writes the name twice, and so it writes the legal name. Compared with the name, it
writes the pen name. -/
theorem written_assembleWithMatch_repeated : ∃ e f g,
    (Schema.author.record ("Twain", "Clemens")).extract "json" [] = .ok e ∧
    (⟨"json", "u", ""⟩ : Assembler).assemble (Schema.author.record ("Twain", "Clemens")) [] =
      .ok f ∧
    (⟨"json", "u", ""⟩ : Assembler).assembleWithMatch (Schema.author.record ("Twain", "Clemens"))
      [] ⟨[⟨"+v+.name", "name"⟩]⟩ = .ok g ∧
    g.setList.text = "u.name = $name, u.id = $id, u.name = $name" ∧
    f.params.get? "name" = some (.string "Clemens") ∧
    g.params.get? "name" = some (.string "Twain") ∧
    ¬ ∀ x ∈ e.fields, g.params.get? ("" ++ x.tag) = f.params.get? ("" ++ x.tag) := by
  refine ⟨_, _, _, rfl, rfl, rfl, by decide, rfl, rfl, fun h => ?_⟩
  have hx : some (Json.string "Twain") = some (.string "Clemens") := h _ (.head _)
  exact absurd (Json.string.inj (Option.some.inj hx)) (by decide)

end CypherFragments.Assembler
