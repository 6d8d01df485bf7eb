import CypherFragments.Fragment
import CypherFragments.Proofs.Table

/-!
# Merged parameters

A table is determined by its keys in their order and by what it holds at each of them. So the laws
of merging need no induction of their own: they come from the keys of a merged table and from its
lookups, which were found by induction over the pairs that are written.

* `Table.ext_get?`: equal keys in equal order and equal lookups make equal tables.
* `Table.keys_merge`: the keys of `a` in their places, then those that only `b` has.
* `Table.merge_assoc`, `Table.merge_empty`, `Table.empty_merge`, `Table.merge_self`: tables are a
  monoid in which every element is idempotent.
* `Table.get?_merge_comm_iff`: when the order of two merges does not show in the lookups;
  tables that share no key are one case.
* `Fragment.mergeParams_union`: all of this about the parameters of fragments.
-/

set_option autoImplicit false

namespace CypherFragments

variable {α : Type}

namespace Table

/-! ## Equality of tables -/

theorem nodup_keys (t : Table α) : t.keys.Nodup := t.distinct

/-- The pairs are the keys with what is held at each. -/
theorem map_entries (t : Table α) :
    t.entries.map (fun p => (p.1, some p.2)) = t.keys.map fun k => (k, t.get? k) := by
  rw [keys, List.map_map]
  refine List.map_congr_left fun p hp => ?_
  have hv : t.get? p.1 = some p.2 := t.mem_entries_iff.1 hp
  rw [Function.comp_apply, hv]

theorem ext_get? {s t : Table α} (hk : s.keys = t.keys) (hg : ∀ k, s.get? k = t.get? k) :
    s = t := by
  have hi (p q : String × α) (h : (p.1, some p.2) = (q.1, some q.2)) : p = q := by
    obtain ⟨h₁, h₂⟩ := Prod.mk.inj h
    exact Prod.ext h₁ (Option.some.inj h₂)
  apply Table.ext
  rw [← List.map_inj_right hi, map_entries, map_entries, hk, funext hg]

/-! ## Keys and values after a merge -/

/-- The keys of `a` keep their places. Those that only `b` has follow in the order of `b`. -/
theorem keys_merge (a b : Table α) :
    (a.merge b).keys = a.keys ++ b.keys.filter (· ∉ a.keys) := by
  have hb : b.keys.removeAll a.keys = b.keys.filter (· ∉ a.keys) :=
    List.filter_congr fun k _ => by simp
  calc (a.merge b).keys
    _ = (a.keys ++ b.keys).eraseDups := keys_insertAll b.entries a
    _ = a.keys.eraseDups ++ (b.keys.removeAll a.keys).eraseDups := List.eraseDups_append
    _ = a.keys ++ b.keys.filter (· ∉ a.keys) := by
      rw [hb, eraseDups_eq_self a.nodup_keys, eraseDups_eq_self (b.nodup_keys.filter _)]

theorem get?_merge_of_mem {a b : Table α} {k : String} (h : k ∈ b.keys) :
    (a.merge b).get? k = b.get? k := by
  obtain ⟨v, hv⟩ := (mem_keys_iff b k).1 h
  rw [get?_merge, hv, Option.some_or]

theorem get?_merge_of_not_mem {a b : Table α} {k : String} (h : k ∉ b.keys) :
    (a.merge b).get? k = a.get? k := by
  rw [get?_merge, (get?_eq_none_iff b k).2 h, Option.none_or]

/-! ## The laws of merging -/

@[simp] theorem merge_empty (a : Table α) : a.merge empty = a := rfl

@[simp] theorem empty_merge (b : Table α) : empty.merge b = b :=
  Table.ext (entries_ofList b.distinct)

theorem merge_assoc (a b c : Table α) : (a.merge b).merge c = a.merge (b.merge c) := by
  apply ext_get?
  · -- A key of `c` is new to both sides iff neither `a` nor `b` has it.
    have hc : c.keys.filter (· ∉ (a.merge b).keys) =
        (c.keys.filter (· ∉ b.keys)).filter (· ∉ a.keys) := by
      rw [List.filter_filter]
      refine List.filter_congr fun k _ => ?_
      simp only [mem_keys_merge, not_or, Bool.decide_and]
    rw [keys_merge _ c, hc, keys_merge a b, keys_merge a, keys_merge b c, List.filter_append,
      List.append_assoc]
  · intro k
    rw [get?_merge, get?_merge, get?_merge, get?_merge, Option.or_assoc]

@[simp] theorem merge_self (a : Table α) : a.merge a = a := by
  apply ext_get?
  · have ha : a.keys.filter (· ∉ a.keys) = [] :=
      List.filter_eq_nil_iff.2 fun k hk => by simpa using hk
    rw [keys_merge, ha, List.append_nil]
  · intro k
    rw [get?_merge, Option.or_self]

/-- The two orders give the same lookups iff the tables hold the same at the keys they share. -/
theorem get?_merge_comm_iff (a b : Table α) :
    (∀ k, (a.merge b).get? k = (b.merge a).get? k) ↔
      ∀ k ∈ a.keys, k ∈ b.keys → a.get? k = b.get? k := by
  refine forall_congr' fun k => ?_
  rw [get?_merge, get?_merge, mem_keys_iff, mem_keys_iff]
  cases ha : a.get? k <;> cases hb : b.get? k <;> simp [eq_comm]

end Table

/-! ## Fragments -/

namespace Fragment

/-- **Merging parameters is an ordered union in which the merged ones win.** Present keys keep their
places and new ones follow in their order. Merges can be grouped in any way, empty parameters
change nothing on either side, a second merge of the same parameters changes nothing more, and all
but the parameters stays as it is. The order of two merges does not show in the lookups if no key is
shared. -/
theorem mergeParams_union (f g : Fragment) (c : Params) :
    (f.mergeParams g.params).params.keys =
      f.params.keys ++ g.params.keys.filter (· ∉ f.params.keys) ∧
    (∀ k, (f.mergeParams g.params).params.get? k =
      if k ∈ g.params.keys then g.params.get? k else f.params.get? k) ∧
    (f.mergeParams g.params).mergeParams c = f.mergeParams (g.mergeParams c).params ∧
    f.mergeParams .empty = f ∧
    { f with params := .empty }.mergeParams g.params = { f with params := g.params } ∧
    (f.mergeParams g.params).mergeParams g.params = f.mergeParams g.params ∧
    { f.mergeParams g.params with params := f.params } = f ∧
    ((∀ k ∈ f.params.keys, k ∉ g.params.keys) →
      ∀ k, (f.mergeParams g.params).params.get? k = (g.mergeParams f.params).params.get? k) := by
  refine ⟨Table.keys_merge _ _, fun k => ?_, ?_, ?_, ?_, ?_, rfl, fun h => ?_⟩
  · split
    · rename_i hk
      exact Table.get?_merge_of_mem hk
    · rename_i hk
      exact Table.get?_merge_of_not_mem hk
  · simp only [mergeParams, Table.merge_assoc]
  · simp only [mergeParams, Table.merge_empty]
  · simp only [mergeParams, Table.empty_merge]
  · simp only [mergeParams, Table.merge_assoc, Table.merge_self]
  · exact (Table.get?_merge_comm_iff _ _).2 fun k hf hg => absurd hg (h k hf)

/-- The parameters of the two ends of a relationship: they stand in the order of the merges, and
have the same values in both orders. -/
theorem mergeParams_union_apart :
    let f := ofParams (.ofList [("start_id", .string "a"), ("start_name", .null)]) "start_"
    let g := ofParams (.ofList [("end_id", .string "b")]) "end_"
    (∀ k ∈ f.params.keys, k ∉ g.params.keys) ∧
    (f.mergeParams g.params).params.keys = ["start_id", "start_name", "end_id"] ∧
    (g.mergeParams f.params).params.keys = ["end_id", "start_id", "start_name"] ∧
    ∀ k, (f.mergeParams g.params).params.get? k = (g.mergeParams f.params).params.get? k := by
  intro f g
  have h : ∀ k ∈ f.params.keys, k ∉ g.params.keys := by decide
  obtain ⟨hf, -, -, -, -, -, -, hk⟩ := mergeParams_union f g .empty
  obtain ⟨hg, -⟩ := mergeParams_union g f .empty
  exact ⟨h, hf.trans (by decide), hg.trans (by decide), hk h⟩

end Fragment

end CypherFragments
