import CypherFragments.Yaml.Document

/-!
# What a reading gives

A reading follows aliases as long as it is allowed to. The allowance decides whether it gives
something, but not what: that is what the document says, where each alias stands for its node.

* `Document.text?`, `Document.items?`, `Document.entries?`, `Document.field?`: what is said.
* `Reading.Gives`: what a reading gives under some allowance, peeled by `Gives.bind`.
* `Reading.Keeps.foldlM`: reading a mapping entry by entry keeps what stands under a key.
-/

set_option autoImplicit false

namespace CypherFragments.Yaml

variable {α β δ : Type} {doc : Document}

/-! ## What a document says -/

namespace Node

/-- The text of a scalar. -/
def text? : Node → Option String
  | scalar _ s _ => some s
  | _ => none

def items? : Node → Option (List Node)
  | sequence _ vs => some vs
  | scalar _ s plain => if plain && s.isEmpty then some [] else none
  | _ => none

def entries? : Node → Option (List (Node × Node))
  | mapping _ es => some es
  | scalar _ s plain => if plain && s.isEmpty then some [] else none
  | _ => none

end Node

namespace Document

variable (doc : Document)

/-- The node itself, or the one that an alias stands for. -/
def follow : Node → Node
  | .reference n => doc.target n
  | v => v

def text? (v : Node) : Option String := (doc.follow v).text?

def items? (v : Node) : Option (List Node) := (doc.follow v).items?

def entries? (v : Node) : Option (List (Node × Node)) := (doc.follow v).entries?

/-- The value of the first entry with the key. -/
def find? (es : List (Node × Node)) (key : String) : Option Node :=
  (es.find? fun e => doc.text? e.1 = some key).map (·.2)

/-- What stands in a mapping under the key. -/
def field? (v : Node) (key : String) : Option Node := (doc.entries? v).bind (doc.find? · key)

end Document

/-! ## What is given -/

namespace Reading

/-- Under some allowance, the reading gives `a`. -/
def Gives (r : Reading α) (doc : Document) (a : α) : Prop :=
  ∃ n m, (r.run doc).run n = some (a, m)

theorem gives_pure {a b : α} : Gives (pure a) doc b ↔ b = a := by
  constructor
  · rintro ⟨n, m, h⟩
    exact (Prod.mk.inj (Option.some.inj h)).1.symm
  · rintro rfl
    exact ⟨0, 0, rfl⟩

theorem not_gives_failure {a : α} : ¬ Gives failure doc a := by
  rintro ⟨n, m, h⟩
  cases h

theorem gives_liftM {o : Option α} {a : α} : Gives (liftM o) doc a ↔ o = some a := by
  cases o with
  | none => exact iff_of_false not_gives_failure nofun
  | some b => rw [Option.some.injEq, eq_comm]; exact gives_pure

theorem Gives.bind {r : Reading α} {f : α → Reading β} {b : β} (h : Gives (r >>= f) doc b) :
    ∃ a, Gives r doc a ∧ Gives (f a) doc b := by
  obtain ⟨n, m, h⟩ := h
  rw [ReaderT.run_bind, StateT.run_bind] at h
  obtain ⟨⟨a, k⟩, ha, hb⟩ := Option.bind_eq_some_iff.1 h
  exact ⟨a, ⟨n, k, ha⟩, ⟨k, m, hb⟩⟩

/-- What is read off a node, once aliases are followed, is what can be seen of it. -/
theorem Gives.view {v : Node} {f : Node → Reading α} {view? : Node → Option α} {a : α}
    (hf : ∀ u, f u = (view? u).elim failure pure) (h : Gives (resolve v >>= f) doc a) :
    view? (doc.follow v) = some a := by
  obtain ⟨u, hu, h⟩ := h.bind
  have he : u = doc.follow v := by
    cases v with
    | reference i =>
      obtain ⟨n, m, hu⟩ := hu
      cases n with
      | zero => cases hu
      | succ n => exact (Prod.mk.inj (Option.some.inj hu)).1.symm
    | scalar _ _ _ | sequence _ _ | mapping _ _ => exact gives_pure.1 hu
  rw [he, hf] at h
  cases hv : view? (doc.follow v) with
  | none => exact absurd (hv ▸ h) not_gives_failure
  | some b =>
    rw [hv] at h
    rw [gives_pure.1 h]

theorem Gives.text {v : Node} {s : String} (h : Gives (text v) doc s) : doc.text? v = some s :=
  Gives.view (fun u => by cases u <;> rfl) h

theorem elim_ite (c : Bool) :
    (if c then pure [] else failure : Reading (List α)) =
      (if c then some [] else none : Option (List α)).elim failure pure := by
  cases c <;> rfl

theorem Gives.items {v : Node} {vs : List Node} (h : Gives (items v) doc vs) :
    doc.items? v = some vs := by
  refine Gives.view (fun u => ?_) h
  cases u with
  | scalar _ _ _ => exact elim_ite _
  | reference _ | sequence _ _ | mapping _ _ => rfl

theorem Gives.entries {v : Node} {es : List (Node × Node)} (h : Gives (entries v) doc es) :
    doc.entries? v = some es := by
  refine Gives.view (fun u => ?_) h
  cases u with
  | scalar _ _ _ => exact elim_ite _
  | reference _ | sequence _ _ | mapping _ _ => rfl

theorem Gives.mapM {f : α → Reading β} {g : α → Option β}
    (hf : ∀ a b, Gives (f a) doc b → g a = some b) :
    ∀ {as : List α} {bs : List β}, Gives (as.mapM f) doc bs → as.mapM g = some bs
  | [], bs, h => by rw [gives_pure.1 h]; rfl
  | a :: as, bs, h => by
    rw [List.mapM_cons] at h
    obtain ⟨b, hb, h⟩ := h.bind
    obtain ⟨bs', hbs, h⟩ := h.bind
    rw [List.mapM_cons, hf a b hb, Gives.mapM hf hbs, gives_pure.1 h]
    rfl

/-! ## Mappings -/

/-- A guarded reading: what has been read before is not read again. -/
theorem Gives.once {c : Bool} {r : Reading β} {g : β → δ} {d : δ}
    (h : Gives (if c then failure >>= fun _ : PUnit => r >>= fun b => pure (g b)
      else r >>= fun b => pure (g b)) doc d) :
    c = false ∧ ∃ b, Gives r doc b ∧ d = g b := by
  cases c with
  | true =>
    obtain ⟨_, hf, -⟩ := h.bind
    exact absurd hf not_gives_failure
  | false =>
    obtain ⟨b, hb, h⟩ := h.bind
    exact ⟨rfl, b, hb, gives_pure.1 h⟩

/-- An entry with this key writes the part of the draft that `part?` shows, where nothing has been
written yet; entries with other keys leave it as it is. -/
def Keeps (doc : Document) (step : δ → Node × Node → Reading δ) (part? : δ → Option β)
    (key : String) (value? : Node → Option β) : Prop :=
  ∀ d e d', Gives (step d e) doc d' → ∃ k, doc.text? e.1 = some k ∧
    (k = key ∧ part? d = none ∧ (∃ b, value? e.2 = some b ∧ part? d' = some b) ∨
      k ≠ key ∧ part? d' = part? d)

theorem Keeps.foldlM {step : δ → Node × Node → Reading δ} {part? : δ → Option β} {key : String}
    {value? : Node → Option β} (hs : Keeps doc step part? key value?) :
    ∀ {es : List (Node × Node)} {d d' : δ}, Gives (es.foldlM step d) doc d' →
      part? d' = (part? d).or ((doc.find? es key).bind value?)
  | [], d, d', h => by
    rw [gives_pure.1 h]
    exact (Option.or_none).symm
  | e :: es, d, d', h => by
    rw [List.foldlM_cons] at h
    obtain ⟨d₁, h₁, h⟩ := h.bind
    obtain ⟨k, hk, ⟨hkey, hd, b, hv, hp⟩ | ⟨hkey, hp⟩⟩ := hs d e d₁ h₁
    · rw [hs.foldlM h, Document.find?, Document.find?, List.find?_cons]
      simp [hk, hkey, hd, hv, hp]
    · rw [hs.foldlM h, Document.find?, Document.find?, List.find?_cons]
      simp [hk, hkey, hp]

theorem Keeps.field {step : δ → Node × Node → Reading δ} {part? : δ → Option β} {key : String}
    {value? : Node → Option β} (hs : Keeps doc step part? key value?) {v : Node}
    {es : List (Node × Node)} {d d' : δ} (hes : Gives (entries v) doc es)
    (h : Gives (es.foldlM step d) doc d') (hd : part? d = none) :
    part? d' = (doc.field? v key).bind value? := by
  rw [hs.foldlM h, hd, Option.none_or, Document.field?, hes.entries, Option.bind_some]

end Reading

/-- Reading a text gives what its root says, if there is a root. -/
theorem Document.decode?_eq_some {f : Node → Reading α} {missing a : α}
    (h : doc.decode? f missing = some a) :
    (doc.root = none ∧ a = missing) ∨ ∃ v, doc.root = some v ∧ (f v).Gives doc a := by
  unfold decode? at h
  split at h
  · rename_i hr
    exact .inl ⟨hr, (Option.some.inj h).symm⟩
  · rename_i v hr
    rw [StateT.run'_eq] at h
    obtain ⟨⟨b, m⟩, hb, rfl⟩ := Option.map_eq_some_iff.1 h
    exact .inr ⟨v, hr, _, m, hb⟩

end CypherFragments.Yaml
