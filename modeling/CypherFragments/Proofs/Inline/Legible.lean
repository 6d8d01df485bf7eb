import CypherFragments.Inline
import CypherFragments.Proofs.Name
import CypherFragments.Proofs.Table

/-!
# Reading a written query back

`Query.scan` finds the places of parameters in a text. A query is `Legible` if its own places are
the ones found: its texts hold no `$`, its parameters are names, and what follows a parameter cannot
be read as more of its name. `Query.Section` is a legible query that may follow a parameter.

* `Query.fill_eq`: filling fails with the first parameter without a value, and otherwise writes the
  query with literals.
* `Query.fill_scan_text`: filling the written text of a legible query is filling the query.
-/

set_option autoImplicit false

namespace CypherFragments

/-- The literal of a parameter's value. -/
def Params.literal (params : Params) (p : String) : String :=
  ((params.get? p).map Literal.text).getD ""

namespace Query

open Text

/-! ## Filling -/

/-- The parameters in the order in which they are written. -/
def slots (q : Query) : List String :=
  q.filterMap fun
    | .text _ => none
    | .slot p => some p

@[simp] theorem slots_append (p q : Query) : slots (p ++ q) = p.slots ++ q.slots :=
  List.filterMap_append

@[simp] theorem slots_ofText (s : String) : slots (ofText s) = [] := rfl

@[simp] theorem render_text (write : String → String) (s : String) (q : Query) :
    render write (.text s :: q) = s ++ render write q :=
  String.join_cons

@[simp] theorem render_slot (write : String → String) (p : String) (q : Query) :
    render write (.slot p :: q) = write p ++ render write q :=
  String.join_cons

/-- **The first parameter without a value decides**; without one the literals are written. -/
theorem fill_eq (params : Params) : ∀ q : Query,
    q.fill params = match q.slots.find? fun p => (params.get? p).isNone with
      | none => .ok (q.render params.literal)
      | some p => .error ⟨p⟩
  | [] => rfl
  | .text s :: q => by
    rw [fill, fill_eq params q, render_text, show slots (.text s :: q) = slots q from rfl]
    cases (slots q).find? fun p => (params.get? p).isNone <;> rfl
  | .slot p :: q => by
    rw [fill, render_slot, show slots (.slot p :: q) = p :: slots q from rfl, List.find?_cons]
    cases hv : params.get? p with
    | none => rfl
    | some v =>
      simp only [Option.isNone_some, Params.literal, hv, Option.map_some, Option.getD_some]
      rw [fill_eq params q]
      cases (slots q).find? fun p => (params.get? p).isNone <;> rfl

/-! ## Scanning -/

theorem scan_text {c : Char} (h : c ≠ '$') (r : List Char) :
    scan (c :: r) = .text (String.singleton c) :: scan r := by
  rw [scan, if_neg h]

theorem scan_slot {p : String} {r : List Char} (hp : IsName p) (hr : EndsName r) :
    scan ('$' :: (p.toList ++ r)) = .slot p :: scan r := by
  have hne : p.toList.isEmpty = false :=
    List.isEmpty_eq_false_iff.2 fun h => hp.1 (String.toList_eq_nil_iff.1 h)
  rw [scan, if_pos rfl]
  simp only [takeWhile_name hp.2 hr, dropWhile_name hp.2 hr, hne, String.ofList_toList]
  rfl

theorem fill_scan_append (params : Params) : ∀ {s : List Char} (_ : '$' ∉ s) (r : List Char),
    (scan (s ++ r)).fill params = ((scan r).fill params).map (String.ofList s ++ ·)
  | [], _, r => by
    rw [List.nil_append]
    cases (scan r).fill params <;> simp [Except.map]
  | c :: s, h, r => by
    rw [List.mem_cons, not_or] at h
    rw [List.cons_append, scan_text (Ne.symm h.1), fill, fill_scan_append params h.2 r]
    cases (scan r).fill params with
    | error e => rfl
    | ok t => simp [Except.map, ← String.append_assoc, String.ofList_cons]

/-! ## Legible queries -/

/-- The parameters that are read in the text are those of the query. -/
def Legible : Query → Prop
  | [] => True
  | .text s :: q => Dollarless s ∧ Legible q
  | .slot p :: q => IsName p ∧ EndsName (text q).toList ∧ Legible q

/-- A legible query that may stand right after a parameter. -/
structure Section (q : Query) : Prop where
  legible : q.Legible
  endsName : EndsName q.text.toList

theorem Section.nil : Section [] := ⟨trivial, .nil⟩

theorem Legible.ofText {s : String} (hs : Dollarless s) {q : Query} (hq : q.Legible) :
    Legible (Query.ofText s ++ q) := ⟨hs, hq⟩

theorem Legible.append : ∀ {p q : Query}, p.Legible → Section q → (p ++ q).Legible
  | [], _, _, hq => hq.legible
  | .text _ :: _, _, hp, hq => ⟨hp.1, append hp.2 hq⟩
  | .slot _ :: p, q, hp, hq => by
    refine ⟨hp.1, ?_, append hp.2.2 hq⟩
    show EndsName (text (p ++ q)).toList
    rw [text_append, String.toList_append]
    exact hp.2.1.append hq.endsName

/-- A text that starts with no name character ends a parameter, whatever follows the text. -/
theorem Section.ofText {s : String} {c : Char} {r : List Char} (hs : s.toList = c :: r)
    (hc : isNameChar c = false) (hd : Dollarless s) {q : Query} (hq : q.Legible) :
    Section (Query.ofText s ++ q) := by
  refine ⟨.ofText hd hq, ?_⟩
  rw [text_append, text_ofText, String.toList_append, hs]
  exact .cons hc _

theorem Section.append {p q : Query} (hp : Section p) (hq : Section q) : Section (p ++ q) := by
  refine ⟨hp.legible.append hq, ?_⟩
  rw [text_append, String.toList_append]
  exact hp.endsName.append hq.endsName

/-- Texts that lead up to a parameter each, with a separator that ends a parameter. -/
theorem Legible.separated {α : Type} {sep : String} {c : Char} {r : List Char}
    (hsep : sep.toList = c :: r) (hc : isNameChar c = false) (hd : Dollarless sep)
    (lead param : α → String) : ∀ {l : List α},
    (∀ x ∈ l, Dollarless (lead x) ∧ IsName (param x)) →
    Legible (Query.separated sep (l.map fun x => [.text (lead x), .slot (param x)]))
  | [], _ => trivial
  | [x], h => ⟨(h x List.mem_cons_self).1, (h x List.mem_cons_self).2, .nil, trivial⟩
  | x :: y :: l, h => by
    have ih := Legible.separated hsep hc hd lead param (l := y :: l)
      fun z hz => h z (List.mem_cons_of_mem _ hz)
    have hs := Section.ofText hsep hc hd ih
    unfold Query.separated at ih hs ⊢
    rw [List.map_cons, List.map_cons, List.intercalate_cons_cons, List.append_assoc]
    rw [List.map_cons] at hs
    obtain ⟨hx, hp⟩ := h x List.mem_cons_self
    exact ⟨hx, hp, hs.endsName, hs.legible⟩

/-- **A legible query is read back as it was written.** -/
theorem fill_scan_text (params : Params) : ∀ {q : Query}, q.Legible →
    (scan q.text.toList).fill params = q.fill params
  | [], _ => by
    rw [show (text []).toList = [] from rfl, scan]
  | .text s :: q, h => by
    rw [text, render_text, String.toList_append, fill_scan_append params h.1]
    rw [← text, fill_scan_text params h.2, String.ofList_toList, fill]
  | .slot p :: q, h => by
    have ht : (text (.slot p :: q)).toList = '$' :: (p.toList ++ (text q).toList) := by
      rw [text, render_slot, placeholder, String.toList_append, String.toList_append]
      rfl
    rw [ht, scan_slot h.1 h.2.1, fill, fill_scan_text params h.2.2, fill]

end Query

end CypherFragments
