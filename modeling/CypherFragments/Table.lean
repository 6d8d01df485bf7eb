/-!
# Insertion-ordered tables

A `Table` binds texts to values. Writing a new key appends it; writing a present key changes its
value and keeps its place. `Table.merge a b` writes all of `b` into `a`.
-/

set_option autoImplicit false

namespace CypherFragments

variable {α κ : Type}

section Upsert
variable [DecidableEq κ] (key : α → κ)

/-- Puts `x` in the place of the first member with its key, or at the end if there is none. -/
def upsert (x : α) : List α → List α
  | [] => [x]
  | y :: ys => if key y = key x then x :: ys else y :: upsert x ys

theorem map_key_upsert (x : α) (l : List α) :
    (upsert key x l).map key = if key x ∈ l.map key then l.map key else l.map key ++ [key x] := by
  induction l with
  | nil => rfl
  | cons y ys ih =>
    unfold upsert
    by_cases h : key y = key x
    · simp [h]
    · have h' : ¬ key x = key y := fun e => h e.symm
      simp only [h, if_false, List.map_cons, ih, List.mem_cons, h', false_or]
      split <;> rfl

theorem nodup_upsert (x : α) {l : List α} (h : (l.map key).Nodup) :
    ((upsert key x l).map key).Nodup := by
  rw [map_key_upsert]
  split
  · exact h
  · rename_i hx
    refine List.nodup_append.2 ⟨h, by simp, ?_⟩
    intro a ha b hb
    rw [List.mem_singleton.1 hb]
    exact fun e => hx (e ▸ ha)

end Upsert

/-- Pairs with distinct keys, in the order in which the keys were first written. -/
@[ext]
structure Table (α : Type) where
  entries : List (String × α)
  distinct : (entries.map (·.1)).Nodup

namespace Table

def empty : Table α := ⟨[], List.nodup_nil⟩

def insert (t : Table α) (k : String) (v : α) : Table α :=
  ⟨upsert (·.1) (k, v) t.entries, nodup_upsert _ _ t.distinct⟩

/-- The pairs written one after the other. -/
def insertAll (t : Table α) (l : List (String × α)) : Table α :=
  l.foldl (fun t p => t.insert p.1 p.2) t

def ofList (l : List (String × α)) : Table α := empty.insertAll l

def get? (t : Table α) (k : String) : Option α := t.entries.lookup k

def keys (t : Table α) : List String := t.entries.map (·.1)

/-- `a` with all of `b` written into it. -/
def merge (a b : Table α) : Table α := a.insertAll b.entries

instance : Inhabited (Table α) := ⟨empty⟩

/-! ## Keys and values after a write -/

@[simp] theorem keys_empty : (empty : Table α).keys = [] := rfl

@[simp] theorem get?_empty (k : String) : (empty : Table α).get? k = none := rfl

/-- A present key keeps its place, a new one comes last. -/
theorem keys_insert (t : Table α) (k : String) (v : α) :
    (t.insert k v).keys = if k ∈ t.keys then t.keys else t.keys ++ [k] :=
  map_key_upsert Prod.fst (k, v) t.entries

theorem lookup_upsert (k k' : String) (v : α) (l : List (String × α)) :
    (upsert (·.1) (k, v) l).lookup k' = if k' = k then some v else l.lookup k' := by
  induction l with
  | nil =>
    by_cases h : k' = k
    · simp [upsert, h]
    · have : (k' == k) = false := beq_eq_false_iff_ne.2 h
      simp [upsert, List.lookup_cons, h, this]
  | cons p l ih =>
    obtain ⟨a, w⟩ := p
    unfold upsert
    by_cases ha : a = k
    · subst ha
      by_cases h : k' = a
      · simp [h]
      · have : (k' == a) = false := beq_eq_false_iff_ne.2 h
        simp [List.lookup_cons, h, this]
    · simp only [ha, if_false, List.lookup_cons, ih]
      by_cases h : k' = a
      · have : k' ≠ k := fun e => ha (h ▸ e)
        simp [h, ha]
      · have : (k' == a) = false := beq_eq_false_iff_ne.2 h
        simp [this]

/-- The value last written. -/
theorem get?_insert (t : Table α) (k k' : String) (v : α) :
    (t.insert k v).get? k' = if k' = k then some v else t.get? k' :=
  lookup_upsert k k' v t.entries

end Table

end CypherFragments
