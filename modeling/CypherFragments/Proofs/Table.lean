import CypherFragments.Table

/-!
# Lookups in tables

What a table holds at a key after several writes:

* `mem_keys_insertAll`, `keys_insertAll`: the keys are those from before and those written, in the
  order in which they first come.
* `entries_ofList`: pairs with distinct keys stay as they are.
* `mem_entries_ofList`: of pairs with the same key the last one counts.
* `get?_insertAll`: the last pair written under a key counts, else what the table held before.
* `get?_ofList_eq_some`: pairs that give each key one value at most are all looked up again.
* `get?_merge`: the merged table wins over the one it is merged into.
-/

set_option autoImplicit false

namespace CypherFragments

variable {α : Type}

/-! ## Association lists -/

/-- No key has two values. -/
def SingleValued (l : List (String × α)) : Prop :=
  ∀ k v w, (k, v) ∈ l → (k, w) ∈ l → v = w

theorem mem_of_lookup : ∀ {l : List (String × α)} {k : String} {v : α},
    l.lookup k = some v → (k, v) ∈ l
  | [], _, _, h => by simp at h
  | (a, w) :: l, k, v, h => by
    rw [List.lookup_cons] at h
    split at h
    · rename_i hk
      obtain rfl := beq_iff_eq.1 hk
      obtain rfl := Option.some.inj h
      exact List.mem_cons_self
    · exact List.mem_cons_of_mem _ (mem_of_lookup h)

theorem lookup_isSome_of_mem {l : List (String × α)} {k : String} {v : α} (h : (k, v) ∈ l) :
    (l.lookup k).isSome := by
  rw [List.lookup_isSome_iff]
  exact ⟨(k, v), h, beq_self_eq_true k⟩

theorem lookup_eq_some_iff {l : List (String × α)} (hl : SingleValued l) {k : String} {v : α} :
    l.lookup k = some v ↔ (k, v) ∈ l := by
  refine ⟨mem_of_lookup, fun h => ?_⟩
  obtain ⟨w, hw⟩ := Option.isSome_iff_exists.1 (lookup_isSome_of_mem h)
  rw [hw, hl k w v (mem_of_lookup hw) h]

theorem lookup_eq_find? (l : List (String × α)) (k : String) :
    l.lookup k = (l.find? (·.1 = k)).map (·.2) := by
  induction l with
  | nil => rfl
  | cons p l ih =>
    rw [List.lookup_cons, List.find?_cons]
    by_cases h : p.1 = k
    · simp [h]
    · simp [h, beq_eq_false_iff_ne.2 (Ne.symm h), ih]

theorem SingleValued.of_nodup {l : List (String × α)} (h : (l.map (·.1)).Nodup) :
    SingleValued l := by
  induction l with
  | nil => intro k v w hv; cases hv
  | cons p l ih =>
    simp only [List.map_cons, List.nodup_cons, List.mem_map, not_exists, not_and] at h
    intro k v w hv hw
    rw [List.mem_cons] at hv hw
    rcases hv with hv | hv <;> rcases hw with hw | hw
    · exact congrArg Prod.snd (hv.trans hw.symm)
    · exact absurd (congrArg Prod.fst hv : k = p.1) (h.1 (k, w) hw)
    · exact absurd (congrArg Prod.fst hw : k = p.1) (h.1 (k, v) hv)
    · exact ih h.2 k v w hv hw

theorem SingleValued.reverse {l : List (String × α)} (h : SingleValued l) :
    SingleValued l.reverse := fun k v w hv hw =>
  h k v w (List.mem_reverse.1 hv) (List.mem_reverse.1 hw)

theorem lookup_reverse {l : List (String × α)} (h : SingleValued l) (k : String) :
    l.reverse.lookup k = l.lookup k := by
  apply Option.ext
  intro v
  rw [lookup_eq_some_iff h.reverse, lookup_eq_some_iff h, List.mem_reverse]

theorem eraseDups_eq_self [DecidableEq α] {l : List α} (h : l.Nodup) : l.eraseDups = l := by
  induction l with
  | nil => rfl
  | cons a l ih =>
    obtain ⟨ha, hl⟩ := List.nodup_cons.1 h
    have hf : l.filter (fun b => !b == a) = l := by
      rw [List.filter_eq_self]
      intro b hb
      have hne : b ≠ a := fun e => ha (e ▸ hb)
      simp [hne]
    rw [List.eraseDups_cons, hf, ih hl]

theorem upsert_of_not_mem {κ : Type} [DecidableEq κ] (key : α → κ) {x : α} :
    ∀ {l : List α}, key x ∉ l.map key → upsert key x l = l ++ [x]
  | [], _ => rfl
  | y :: l, h => by
    rw [List.map_cons, List.mem_cons, not_or] at h
    unfold upsert
    rw [if_neg (Ne.symm h.1), upsert_of_not_mem key h.2]
    rfl

/-- Of members with distinct keys, the one with the key of `x` is replaced and the others stay. -/
theorem upsert_of_mem {κ : Type} [DecidableEq κ] (key : α → κ) {x : α} :
    ∀ {l : List α}, (l.map key).Nodup → key x ∈ l.map key →
      upsert key x l = l.map fun y => if key y = key x then x else y
  | [], _, hx => nomatch hx
  | y :: l, hl, hx => by
    obtain ⟨hy, hl⟩ := List.nodup_cons.1 hl
    unfold upsert
    rw [List.map_cons]
    by_cases h : key y = key x
    · have hs : (l.map fun z => if key z = key x then x else z) = l := by
        refine (List.map_congr_left fun z hz => ?_).trans l.map_id
        have hz : key z ∈ l.map key := List.mem_map_of_mem hz
        exact if_neg fun (e : key z = key x) => hy (h.trans e.symm ▸ hz)
      rw [if_pos h, if_pos h, hs]
    · have hm : key x ∈ l.map key := (List.mem_cons.1 hx).resolve_left (Ne.symm h)
      rw [if_neg h, if_neg h, upsert_of_mem key hl hm]

/-- Members that are written in another form with the same keys are put in the same places. -/
theorem map_upsert {β κ : Type} [DecidableEq κ] (key : α → κ) (key' : β → κ) (f : α → β)
    (hf : ∀ y, key' (f y) = key y) (x : α) :
    ∀ l : List α, (upsert key x l).map f = upsert key' (f x) (l.map f)
  | [] => rfl
  | y :: l => by
    rw [List.map_cons, upsert, upsert, hf, hf]
    split
    · rfl
    · rw [List.map_cons, map_upsert key key' f hf x l]

namespace Table

/-! ## Keys -/

theorem get?_eq_none_iff (t : Table α) (k : String) : t.get? k = none ↔ k ∉ t.keys := by
  unfold get? keys
  rw [List.lookup_eq_none_iff]
  simp only [bne_iff_ne, ne_eq, List.mem_map, not_exists, not_and]
  exact ⟨fun h p hp e => h p hp e.symm, fun h p hp e => h p hp e.symm⟩

theorem mem_keys_iff (t : Table α) (k : String) : k ∈ t.keys ↔ ∃ v, t.get? k = some v := by
  rw [← Option.ne_none_iff_exists', ne_eq, get?_eq_none_iff, Classical.not_not]

theorem mem_keys_insert (t : Table α) (k k' : String) (v : α) :
    k' ∈ (t.insert k v).keys ↔ k' ∈ t.keys ∨ k' = k := by
  rw [keys_insert]
  split
  · rename_i h
    exact ⟨.inl, fun h' => h'.elim id fun e => e ▸ h⟩
  · rw [List.mem_append, List.mem_singleton]

theorem mem_keys_insertAll : ∀ (l : List (String × α)) (t : Table α) (k : String),
    k ∈ (t.insertAll l).keys ↔ k ∈ t.keys ∨ k ∈ l.map (·.1)
  | [], t, k => by simp [insertAll]
  | p :: l, t, k => by
    have ih := mem_keys_insertAll l (t.insert p.1 p.2) k
    rw [mem_keys_insert, or_assoc] at ih
    rw [List.map_cons, List.mem_cons]
    exact ih

/-- Keys stand in the order in which they are first written. -/
theorem keys_insertAll (l : List (String × α)) (t : Table α) :
    (t.insertAll l).keys = (t.keys ++ l.map (·.1)).eraseDups := by
  induction l generalizing t with
  | nil =>
    have h : t.keys.eraseDups = t.keys := eraseDups_eq_self t.distinct
    rw [List.map_nil, List.append_nil, h]
    rfl
  | cons p l ih =>
    have hs : (t.insertAll (p :: l)).keys = ((t.insert p.1 p.2).insertAll l).keys := rfl
    rw [hs, ih, keys_insert, List.map_cons]
    split
    · rename_i hp
      rw [List.eraseDups_append, List.eraseDups_append, List.cons_removeAll]
      simp [hp]
    · rw [List.append_assoc]
      rfl

/-- New keys are appended as they come. -/
theorem entries_insertAll (l : List (String × α)) (t : Table α)
    (h : (t.keys ++ l.map (·.1)).Nodup) : (t.insertAll l).entries = t.entries ++ l := by
  induction l generalizing t with
  | nil => exact (List.append_nil _).symm
  | cons p l ih =>
    rw [List.map_cons, List.append_cons] at h
    have hp : p.1 ∉ t.keys := fun hm =>
      (List.nodup_append.1 (List.nodup_append.1 h).1).2.2 _ hm _ (List.mem_singleton_self _) rfl
    have hk : (t.insert p.1 p.2).keys = t.keys ++ [p.1] := by rw [keys_insert, if_neg hp]
    have he : (t.insert p.1 p.2).entries = t.entries ++ [p] := upsert_of_not_mem Prod.fst hp
    refine (ih (t.insert p.1 p.2) (hk ▸ h)).trans ?_
    rw [he, List.append_assoc]
    rfl

/-- Pairs with distinct keys are a table as they are. -/
theorem entries_ofList {l : List (String × α)} (h : (l.map (·.1)).Nodup) :
    (ofList l).entries = l :=
  entries_insertAll l empty h

/-! ## Values -/

theorem insertAll_append (t : Table α) (l m : List (String × α)) :
    t.insertAll (l ++ m) = (t.insertAll l).insertAll m :=
  List.foldl_append

theorem get?_insertAll : ∀ (l : List (String × α)) (t : Table α) (k : String),
    (t.insertAll l).get? k = (l.reverse.lookup k).or (t.get? k)
  | [], _, _ => rfl
  | p :: l, t, k => by
    have ih := get?_insertAll l (t.insert p.1 p.2) k
    rw [List.reverse_cons, List.lookup_append, Option.or_assoc]
    refine ih.trans (congrArg _ ?_)
    rw [get?_insert, List.lookup_cons]
    by_cases h : k = p.1
    · simp [h]
    · simp [h, beq_eq_false_iff_ne.2 h]

theorem get?_ofList (l : List (String × α)) (k : String) :
    (ofList l).get? k = l.reverse.lookup k := by
  rw [ofList, get?_insertAll, get?_empty, Option.or_none]

theorem mem_entries_iff (t : Table α) {k : String} {v : α} :
    (k, v) ∈ t.entries ↔ t.get? k = some v :=
  (lookup_eq_some_iff (.of_nodup t.distinct)).symm

/-- A table has a pair iff it was written and its key was not written again after it. -/
theorem mem_entries_ofList {l : List (String × α)} {k : String} {v : α} :
    (k, v) ∈ (ofList l).entries ↔
      ∃ before after, l = before ++ (k, v) :: after ∧ k ∉ after.map (·.1) := by
  rw [mem_entries_iff, get?_ofList, List.lookup_eq_some_iff]
  have hk (after : List (String × α)) :
      (∀ p ∈ after.reverse, (k != p.1) = true) ↔ k ∉ after.map (·.1) := by
    simp only [List.mem_reverse, bne_iff_ne, ne_comm, List.mem_map, not_exists, not_and, ne_eq]
  constructor
  · rintro ⟨l₁, l₂, hl, h⟩
    refine ⟨l₂.reverse, l₁.reverse, ?_, (hk _).1 (l₁.reverse_reverse.symm ▸ h)⟩
    rw [← List.reverse_inj, hl]
    simp
  · rintro ⟨before, after, rfl, h⟩
    exact ⟨after.reverse, before.reverse, by simp, (hk _).2 h⟩

theorem get?_ofList_eq_some {l : List (String × α)} (h : SingleValued l) {k : String} {v : α} :
    (ofList l).get? k = some v ↔ (k, v) ∈ l := by
  rw [get?_ofList, lookup_reverse h, lookup_eq_some_iff h]

/-- **The merged table wins**; keys that it does not hold keep their values. -/
theorem get?_merge (a b : Table α) (k : String) :
    (a.merge b).get? k = (b.get? k).or (a.get? k) := by
  rw [merge, get?_insertAll, lookup_reverse (.of_nodup b.distinct)]
  rfl

theorem mem_keys_merge (a b : Table α) (k : String) :
    k ∈ (a.merge b).keys ↔ k ∈ a.keys ∨ k ∈ b.keys :=
  mem_keys_insertAll b.entries a k

end Table

end CypherFragments
