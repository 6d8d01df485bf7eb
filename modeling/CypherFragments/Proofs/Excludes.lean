import CypherFragments.Proofs.Assembly
import CypherFragments.Record.Schema

/-!
# Excludes

Excludes divide the fields of a record into those that are written and those that are left out. All
fields of one tag go to the same side, so what a clause compares with does not depend on them.

* `Record.merges_extract`: both sides keep the order of declaration, and no field is lost.
* `Record.valueFor?_extract`: a comparison takes the first field of its tag, on whichever side.
* `Assembler.comparisons_excludes`: under two lists of excludes a clause says the same and binds the
  same.
-/

set_option autoImplicit false

namespace CypherFragments

/-! ## Merged lists -/

/-- The third list holds the members of the first and of the second, each in their order. -/
inductive Merges {α : Type} : List α → List α → List α → Prop
  | nil : Merges [] [] []
  | left {x : α} {xs ys zs : List α} : Merges xs ys zs → Merges (x :: xs) ys (x :: zs)
  | right {y : α} {xs ys zs : List α} : Merges xs ys zs → Merges xs (y :: ys) (y :: zs)

theorem merges_filter {α : Type} (p : α → Bool) (l : List α) :
    Merges (l.filter (!p ·)) (l.filter p) l := by
  induction l with
  | nil => exact .nil
  | cons x l ih =>
    cases hp : p x with
    | false =>
      rw [List.filter_cons_of_pos (by simp [hp]), List.filter_cons_of_neg (by simp [hp])]
      exact .left ih
    | true =>
      rw [List.filter_cons_of_neg (by simp [hp]), List.filter_cons_of_pos hp]
      exact .right ih

/-! ## The two sides -/

theorem ofTag_append (tag : String) (l m : List BoundField) :
    ofTag tag (l ++ m) = ofTag tag l ++ ofTag tag m := List.filter_append _ _

/-- A choice by tags keeps all fields of a tag or none. -/
theorem ofTag_filter (p : String → Bool) (tag : String) (l : List BoundField) :
    ofTag tag (l.filter (p ·.tag)) = if p tag then ofTag tag l else [] := by
  unfold ofTag
  rw [List.filter_filter]
  split
  · rename_i hp
    refine List.filter_congr fun f _ => ?_
    by_cases ht : f.tag = tag
    · simp [ht, hp]
    · simp [ht]
  · rename_i hp
    rw [List.filter_eq_nil_iff]
    intro f _ hf
    rw [Bool.and_eq_true, decide_eq_true_eq] at hf
    exact hp (hf.1 ▸ hf.2)

/-- Written fields come before those left out. -/
theorem Extract.valueFor?_of_fields {e : Extract} {f : BoundField} (hf : f ∈ e.fields) :
    e.valueFor? f.tag = (ofTag f.tag e.fields).head?.map (·.value) := by
  have hm : f ∈ ofTag f.tag e.fields := mem_ofTag.2 ⟨hf, rfl⟩
  rw [valueFor?_eq, bound, ofTag_append, List.head?_append,
    Option.or_of_isSome (List.isSome_head?.2 (List.ne_nil_of_mem hm))]

namespace Record

variable {r : Record} {family : String} {excludes : List String} {e : Extract}
  {l : List BoundField}

theorem extract_bound (h : r.extract family excludes = .ok e) :
    ∃ l, r.boundFields family = .ok l := by
  obtain ⟨-, l, -, hl, -⟩ := extract_ok.1 h
  exact ⟨l, hl⟩

/-- Whether a record can be extracted does not depend on the excludes. -/
theorem exists_extract (h : r.extract family excludes = .ok e) (others : List String) :
    ∃ e', r.extract family others = .ok e' := by
  obtain ⟨name, l, hn, hl, -⟩ := extract_ok.1 h
  exact ⟨_, extract_ok.2 ⟨name, l, hn, hl, rfl⟩⟩

/-- The two sides are two filters of one list. -/
theorem sides_extract (h : r.extract family excludes = .ok e)
    (hl : r.boundFields family = .ok l) :
    e.fields = l.filter (!excludes.contains ·.tag) ∧
      e.excluded = l.filter (excludes.contains ·.tag) := by
  obtain ⟨name, l', -, hl', rfl⟩ := extract_ok.1 h
  obtain rfl := Except.ok.inj (hl'.symm.trans hl)
  exact ⟨rfl, rfl⟩

theorem fields_extract (h : r.extract family excludes = .ok e)
    (hl : r.boundFields family = .ok l) : e.fields = l.filter (·.tag ∉ excludes) := by
  rw [(sides_extract h hl).1]
  exact List.filter_congr fun f _ => by simp

theorem merges_extract (h : r.extract family excludes = .ok e)
    (hl : r.boundFields family = .ok l) : Merges e.fields e.excluded l := by
  obtain ⟨hf, hx⟩ := sides_extract h hl
  rw [hf, hx]
  exact merges_filter _ _

/-- Going to one side together, the fields of a tag keep their order. -/
theorem ofTag_bound (h : r.extract family excludes = .ok e) (hl : r.boundFields family = .ok l)
    (tag : String) : ofTag tag e.bound = ofTag tag l := by
  obtain ⟨hf, hx⟩ := sides_extract h hl
  rw [Extract.bound, ofTag_append, hf, hx, ofTag_filter (!excludes.contains ·),
    ofTag_filter excludes.contains]
  cases excludes.contains tag <;> simp

theorem valueFor?_extract (h : r.extract family excludes = .ok e)
    (hl : r.boundFields family = .ok l) (tag : String) :
    e.valueFor? tag = (ofTag tag l).head?.map (·.value) := by
  rw [Extract.valueFor?_eq, ofTag_bound h hl]

end Record

/-! ## Comparisons -/

namespace Assembler

variable {a : Assembler} {clause : MatchClause} {e : Extract}

theorem get?_matched_entry {m : MatchEntry} (hm : m ∈ clause.entries) :
    (a.matched clause e).params.get? (m.prefixedParam a.paramPrefix) = e.valueFor? m.param := by
  rw [MatchEntry.prefixedParam, get?_matched_tag, if_pos ⟨m, hm, rfl⟩]

variable (a clause)

/-- **Comparisons do not depend on excludes.** Whatever is left out, all fields are still there in
the order of declaration, each tag has the value it had, and each entry of the clause compares with
what it compared with. -/
theorem comparisons_excludes {r : Record} {excludes : List String}
    (h : r.extract a.tagName excludes = .ok e) (others : List String) :
    ∃ l e' f f', r.boundFields a.tagName = .ok l ∧ r.extract a.tagName others = .ok e' ∧
      a.assembleWithMatch r excludes clause = .ok f ∧
      a.assembleWithMatch r others clause = .ok f' ∧
      Merges e.fields e.excluded l ∧ Merges e'.fields e'.excluded l ∧
      (∀ tag, e'.valueFor? tag = e.valueFor? tag) ∧
      f'.matchPredicate.text = f.matchPredicate.text ∧
      ∀ m ∈ clause.entries, f'.params.get? (m.prefixedParam a.paramPrefix) =
        f.params.get? (m.prefixedParam a.paramPrefix) := by
  obtain ⟨l, hl⟩ := Record.extract_bound h
  obtain ⟨e', h'⟩ := Record.exists_extract h others
  have hv (tag : String) : e'.valueFor? tag = e.valueFor? tag := by
    rw [Record.valueFor?_extract h' hl, Record.valueFor?_extract h hl]
  refine ⟨l, e', a.matched clause e, a.matched clause e', hl, h',
    a.assembleWithMatch_of_extract clause h, a.assembleWithMatch_of_extract clause h',
    Record.merges_extract h hl, Record.merges_extract h' hl, hv, rfl, fun m hm => ?_⟩
  rw [get?_matched_entry hm, get?_matched_entry hm, hv]

end Assembler

/-- A type with two fields of one tag: a pen name and a legal name. -/
def Schema.author : Schema (String × String) where
  name := "Author"
  fields :=
    [⟨"pen", [("json", "name")], some fun x => some (.string x.1)⟩,
      ⟨"ident", [("json", "id")], some fun _ => some (.string "a1")⟩,
      ⟨"legal", [("json", "name")], some fun x => some (.string x.2)⟩]

/-- An author is found by the pen name, be the names written or left out. -/
theorem Assembler.comparisons_excludes_author : ∃ f f',
    (⟨"json", "u", "p_"⟩ : Assembler).assembleWithMatch (Schema.author.record ("Twain", "Clemens"))
      [] ⟨[⟨"+v+.name", "name"⟩]⟩ = .ok f ∧
    (⟨"json", "u", "p_"⟩ : Assembler).assembleWithMatch (Schema.author.record ("Twain", "Clemens"))
      ["name"] ⟨[⟨"+v+.name", "name"⟩]⟩ = .ok f' ∧
    f'.matchPredicate.text = "u.name = $p_name" ∧ f'.setList.text = "u.id = $p_id" ∧
    f'.params.get? "p_name" = some (.string "Twain") := by
  have h : (Schema.author.record ("Twain", "Clemens")).extract "json" [] = .ok _ := rfl
  obtain ⟨l, e', f, f', -, -, hf, hf', -, -, -, hc, hp⟩ :=
    comparisons_excludes ⟨"json", "u", "p_"⟩ ⟨[⟨"+v+.name", "name"⟩]⟩ h ["name"]
  obtain rfl := Except.ok.inj hf
  refine ⟨_, f', rfl, hf', hc.trans (by decide), ?_, (hp _ (.head _)).trans rfl⟩
  obtain rfl := Except.ok.inj hf'
  decide

end CypherFragments
