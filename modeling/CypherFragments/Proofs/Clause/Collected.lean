import CypherFragments.Proofs.Clause.Distinct
import CypherFragments.Proofs.Table

/-!
# Clauses collected from pairs

A clause that is collected from pairs is the table of these pairs: a template stands where it first
comes, with the parameter that it comes with last.

* `MatchClause.pairs_ofList`: collecting pairs and writing them into a table are the same.
* `MatchClause.getElem?_insert`, `MatchClause.drop_insert`: what one insertion does at each place of
  a clause with distinct templates, and behind its last place.
* `MatchClause.collected_pairs`: what is collected, in one piece, in two, and once more.
-/

set_option autoImplicit false

namespace CypherFragments.MatchClause

def templates (c : MatchClause) : List String := c.entries.map (·.template)

/-- The pairs that the entries can be collected from. -/
def pairs (c : MatchClause) : List (String × String) :=
  c.entries.map fun e => (e.template, e.param)

theorem pairs_inj {c d : MatchClause} : c.pairs = d.pairs ↔ c = d := by
  have hi (e e' : MatchEntry) (h : (e.template, e.param) = (e'.template, e'.param)) : e = e' := by
    cases e
    cases e'
    obtain ⟨rfl, rfl⟩ := Prod.mk.inj h
    rfl
  cases c
  cases d
  rw [mk.injEq]
  exact List.map_inj_right hi

theorem templates_eq (c : MatchClause) : c.templates = c.pairs.map (·.1) := by
  rw [templates, pairs, List.map_map]
  rfl

theorem mem_entries_iff {c : MatchClause} {template param : String} :
    ⟨template, param⟩ ∈ c.entries ↔ (template, param) ∈ c.pairs := by
  rw [pairs, List.mem_map]
  constructor
  · exact fun h => ⟨_, h, rfl⟩
  · rintro ⟨e, he, h⟩
    obtain ⟨rfl, rfl⟩ := Prod.mk.inj h
    exact he

/-! ## One insertion -/

theorem entries_insert (c : MatchClause) (template param : String) :
    (c.insert template param).entries =
      upsert MatchEntry.template ⟨template, param⟩ c.entries := rfl

theorem pairs_insert (c : MatchClause) (template param : String) :
    (c.insert template param).pairs = upsert (·.1) (template, param) c.pairs :=
  map_upsert MatchEntry.template Prod.fst (fun e => (e.template, e.param)) (fun _ => rfl)
    ⟨template, param⟩ c.entries

/-- Each place keeps its entry, or has the new one if that has the same template. -/
theorem getElem?_insert {c : MatchClause} (hc : c.Distinct) (template param : String) {i : Nat}
    {e : MatchEntry} (he : c.entries[i]? = some e) :
    (c.insert template param).entries[i]? =
      some (if e.template = template then ⟨template, param⟩ else e) := by
  by_cases ht : template ∈ c.templates
  · rw [entries_insert, upsert_of_mem MatchEntry.template hc ht, List.getElem?_map, he]
    rfl
  · have hne : e.template ≠ template := fun h =>
      ht (h ▸ List.mem_map_of_mem (List.mem_of_getElem? he))
    obtain ⟨hi, -⟩ := List.getElem?_eq_some_iff.1 he
    rw [entries_insert, upsert_of_not_mem MatchEntry.template ht, List.getElem?_append_left hi,
      he, if_neg hne]

/-- Behind the last place comes the new entry, if its template is new. -/
theorem drop_insert (c : MatchClause) (template param : String) :
    (c.insert template param).entries.drop c.entries.length =
      if template ∈ c.templates then [] else [⟨template, param⟩] := by
  split
  · rename_i ht
    have hl : (c.insert template param).templates.length = c.templates.length := by
      refine congrArg List.length ((map_key_upsert _ _ _).trans (if_pos ?_))
      exact ht
    rw [templates, templates, List.length_map, List.length_map] at hl
    exact List.drop_of_length_le (Nat.le_of_eq hl)
  · rename_i ht
    rw [entries_insert, upsert_of_not_mem MatchEntry.template ht, List.drop_left]

/-! ## Collecting -/

theorem ofList_append (l m : List (String × String)) :
    ofList (l ++ m) = m.foldl (fun c p => c.insert p.1 p.2) (ofList l) :=
  List.foldl_append

/-- A clause is collected as a table is written. -/
theorem pairs_ofList (l : List (String × String)) :
    (ofList l).pairs = (Table.ofList l).entries := by
  suffices h : ∀ (c : MatchClause) (t : Table String), c.pairs = t.entries →
      (l.foldl (fun c p => c.insert p.1 p.2) c).pairs = (t.insertAll l).entries from
    h empty Table.empty rfl
  induction l with
  | nil => exact fun c t h => h
  | cons p l ih =>
    intro c t h
    refine ih (c.insert p.1 p.2) (t.insert p.1 p.2) ?_
    rw [pairs_insert, h]
    rfl

theorem templates_ofList (l : List (String × String)) :
    (ofList l).templates = (l.map (·.1)).eraseDups := by
  rw [templates_eq, pairs_ofList]
  exact Table.keys_insertAll l Table.empty

theorem mem_entries_ofList {l : List (String × String)} {template param : String} :
    ⟨template, param⟩ ∈ (ofList l).entries ↔
      ∃ before after, l = before ++ (template, param) :: after ∧
        template ∉ after.map (·.1) := by
  rw [mem_entries_iff, pairs_ofList]
  exact Table.mem_entries_ofList

/-- A clause with distinct templates is collected from its own entries. -/
theorem ofList_pairs {c : MatchClause} (hc : c.Distinct) : ofList c.pairs = c := by
  have hp : (c.pairs.map (·.1)).Nodup := c.templates_eq ▸ hc
  rw [← pairs_inj, pairs_ofList, Table.entries_ofList hp]

/-- **Templates stand where they first come, with the parameters they come with last.** Pairs that
are collected after others are inserted one by one into what those give, and a collected clause is
collected from its own entries again. An insertion leaves each entry of another template in its
place, where no template comes twice. -/
theorem collected_pairs :
    (∀ l : List (String × String),
      (ofList l).templates = (l.map (·.1)).eraseDups ∧
      (∀ template param, ⟨template, param⟩ ∈ (ofList l).entries ↔
        ∃ before after, l = before ++ (template, param) :: after ∧
          template ∉ after.map (·.1)) ∧
      (∀ m, ofList (l ++ m) = m.foldl (fun c p => c.insert p.1 p.2) (ofList l)) ∧
      ofList (ofList l).pairs = ofList l) ∧
    ∀ c : MatchClause, c.Distinct → ∀ template param,
      (∀ (i : Nat) (e : MatchEntry), c.entries[i]? = some e →
        (c.insert template param).entries[i]? =
          some (if e.template = template then ⟨template, param⟩ else e)) ∧
      (c.insert template param).entries.drop c.entries.length =
        if template ∈ c.templates then [] else [⟨template, param⟩] := by
  refine ⟨fun l => ⟨templates_ofList l, fun _ _ => mem_entries_ofList, ofList_append l,
    ofList_pairs (distinct_ofList l)⟩, fun c hc template param => ⟨fun i e he => ?_, ?_⟩⟩
  · exact getElem?_insert hc template param he
  · exact c.drop_insert template param

/-- The first template comes again, with another parameter. -/
theorem collected_pairs_again :
    let c := ofList [("b", "x"), ("a", "y"), ("b", "z")]
    c.Distinct ∧ c.entries = [⟨"b", "z"⟩, ⟨"a", "y"⟩] ∧
      (c.insert "a" "w").entries[0]? = some ⟨"b", "z"⟩ ∧
      (c.insert "a" "w").entries[1]? = some ⟨"a", "w"⟩ ∧
      (c.insert "a" "w").entries.drop 2 = [] := by
  intro c
  have hc : c.Distinct := by decide
  obtain ⟨hi, hd⟩ := collected_pairs.2 c hc "a" "w"
  exact ⟨hc, by decide, hi 0 ⟨"b", "z"⟩ (by decide), hi 1 ⟨"a", "y"⟩ (by decide), hd⟩

end CypherFragments.MatchClause
