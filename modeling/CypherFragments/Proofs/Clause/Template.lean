import CypherFragments.Clause.Basic
import CypherFragments.Proofs.Name

/-!
# Expanded templates

The places of the variable in a template are found from left to right, each after the one before it,
as they may overlap in the text. A character that occurs in no place cuts a template in two, and a
name other than `v` that is put in leaves no place.

* `MatchEntry.expand_induction`: a template begins with a place or with a character before which
  none starts.
* `MatchEntry.expand_append_cons`: expansion splits at a character that is not part of a place.
* `MatchEntry.expand_first`: the first place takes the variable.
* `MatchEntry.not_infix_expand`: no place is left.
-/

set_option autoImplicit false

namespace CypherFragments.MatchEntry

/-- What stands for the variable. -/
def mark : List Char := ['+', 'v', '+']

/-! ## From left to right -/

theorem expand_mark (w r : List Char) : expand w (mark ++ r) = w ++ expand w r := rfl

theorem expand_cons {w : List Char} {c : Char} {r : List Char} (h : ¬ mark <+: c :: r) :
    expand w (c :: r) = c :: expand w r := by
  rw [expand]
  rintro t rfl rfl
  exact h ⟨t, rfl⟩

/-- The ways in which a template begins. -/
theorem expand_induction {motive : List Char → Prop} (nil : motive [])
    (place : ∀ r, motive r → motive (mark ++ r))
    (other : ∀ c r, ¬ mark <+: c :: r → motive r → motive (c :: r)) (s : List Char) : motive s := by
  induction s using expand.induct with
  | case1 r ih => exact place r ih
  | case2 c r hne ih =>
    refine other c r ?_ ih
    rintro ⟨t, ht⟩
    obtain ⟨rfl, hr⟩ := List.cons.inj ht
    exact hne t rfl hr.symm
  | case3 => exact nil

/-- No place reaches over a character that is not part of one. -/
theorem prefix_append_cons {c : Char} (hc : c ∉ mark) (s r : List Char) :
    mark <+: s ++ c :: r ↔ mark <+: s := by
  refine ⟨fun h => ?_, fun h => h.trans (List.prefix_append s _)⟩
  have hs : s ++ [c] <+: s ++ c :: r := ⟨r, by simp⟩
  rcases List.prefix_or_prefix_of_prefix h hs with h | h
  · rcases List.prefix_concat_iff.1 h with h | h
    · exact absurd (h ▸ List.mem_append_right s (List.mem_singleton_self c)) hc
    · exact h
  · exact absurd (h.subset (List.mem_append_right s (List.mem_singleton_self c))) hc

theorem expand_append_cons (w : List Char) {c : Char} (hc : c ∉ mark) (s r : List Char) :
    expand w (s ++ c :: r) = expand w s ++ c :: expand w r := by
  induction s using expand_induction with
  | nil =>
    refine expand_cons fun h => ?_
    exact absurd (List.prefix_nil.1 ((prefix_append_cons hc [] r).1 h)) (by decide)
  | place s ih => rw [List.append_assoc, expand_mark, expand_mark, ih, List.append_assoc]
  | other d s h ih =>
    have hd : ¬ mark <+: d :: (s ++ c :: r) := fun hp => h ((prefix_append_cons hc (d :: s) r).1 hp)
    rw [List.cons_append, expand_cons hd, expand_cons h, ih, List.cons_append]

/-- Nothing changes before the first place. -/
theorem expand_first (w : List Char) {s r : List Char}
    (h : ∀ a b, s ++ (mark ++ r) = a ++ (mark ++ b) → s.length ≤ a.length) :
    expand w (s ++ (mark ++ r)) = s ++ (w ++ expand w r) := by
  induction s with
  | nil => exact expand_mark w r
  | cons c s ih =>
    have hc : ¬ mark <+: c :: (s ++ (mark ++ r)) := by
      rintro ⟨b, hb⟩
      exact absurd (h [] b hb.symm) (by simp)
    rw [List.cons_append, expand_cons hc, List.cons_append]
    refine congrArg (c :: ·) (ih fun a b hab => ?_)
    exact Nat.le_of_succ_le_succ (h (c :: a) b (congrArg (c :: ·) hab))

theorem expand_of_not_infix (w : List Char) {s : List Char} (h : ¬ mark <:+: s) :
    expand w s = s := by
  induction s using expand_induction with
  | nil => rfl
  | place r _ => exact absurd (List.prefix_append mark r).isInfix h
  | other c r hc ih => rw [expand_cons hc, ih fun hr => h (hr.trans (List.suffix_cons c r).isInfix)]

/-! ## What is left -/

theorem plus_prefix_of_expand {w s : List Char} (h : ['+'] <+: expand w s) : ['+'] <+: s := by
  induction s using expand_induction with
  | nil => exact h
  | place r _ => exact ⟨['v', '+'] ++ r, rfl⟩
  | other c r hc _ =>
    rw [expand_cons hc] at h
    exact List.cons_prefix_cons.2 ⟨(List.cons_prefix_cons.1 h).1, List.nil_prefix⟩

section
variable {w : List Char} (hw : '+' ∉ w)
include hw

/-- A place after a text without `+` does not start in the text. -/
theorem infix_of_append {s : List Char} (h : mark <:+: w ++ s) : mark <:+: s := by
  induction w with
  | nil => exact h
  | cons c w ih =>
    rw [List.mem_cons, not_or] at hw
    rcases List.infix_cons_iff.1 h with h | h
    · exact absurd (List.cons_prefix_cons.1 h).1 hw.1
    · exact ih hw.2 h

variable (hn : w ≠ []) (hv : w ≠ ['v'])
include hn hv

/-- The rest of a place comes from the template: a name that is put in is longer than its `v`. -/
theorem rest_prefix_of_expand {s : List Char} (h : ['v', '+'] <+: expand w s) :
    ['v', '+'] <+: s := by
  induction s using expand_induction with
  | nil => exact h
  | place r _ =>
    exfalso
    rw [expand_mark] at h
    obtain ⟨c, w, rfl⟩ := List.exists_cons_of_ne_nil hn
    obtain ⟨rfl, hr⟩ := List.cons_prefix_cons.1 h
    cases w with
    | nil => exact hv rfl
    | cons d w => exact hw (List.mem_cons_of_mem _ ((List.cons_prefix_cons.1 hr).1 ▸ .head w))
  | other c r hc _ =>
    rw [expand_cons hc] at h
    obtain ⟨rfl, hr⟩ := List.cons_prefix_cons.1 h
    exact List.cons_prefix_cons.2 ⟨rfl, plus_prefix_of_expand hr⟩

/-- **No place is left**, neither from the template nor around what is put in. -/
theorem not_infix_expand (s : List Char) : ¬ mark <:+: expand w s := by
  induction s using expand_induction with
  | nil => exact fun h => absurd (List.infix_nil.1 h) (by decide)
  | place r ih => exact fun h => ih (infix_of_append hw h)
  | other c r hc ih =>
    rw [expand_cons hc]
    intro h
    rcases List.infix_cons_iff.1 h with h | h
    · obtain ⟨rfl, hr⟩ := List.cons_prefix_cons.1 h
      exact hc (List.cons_prefix_cons.2 ⟨rfl, rest_prefix_of_expand hw hn hv hr⟩)
    · exact ih h

end

/-! ## Texts -/

theorem occurs_iff {w s : List Char} : occurs w s = true ↔ w <:+: s := by
  induction s with
  | nil => rw [occurs, List.isEmpty_iff, List.infix_nil]
  | cons c r ih => rw [occurs, Bool.or_eq_true, List.isPrefixOf_iff_prefix, ih, List.infix_cons_iff]

/-- `w` stands in the text. -/
def Holds (w t : String) : Prop := ∃ a b, t = a ++ w ++ b

theorem holds_iff {w t : String} : Holds w t ↔ w.toList <:+: t.toList := by
  constructor
  · rintro ⟨a, b, rfl⟩
    exact ⟨a.toList, b.toList, by rw [String.toList_append, String.toList_append]⟩
  · rintro ⟨a, b, h⟩
    refine ⟨String.ofList a, String.ofList b, String.toList_inj.1 ?_⟩
    rw [← h, String.toList_append, String.toList_append, String.toList_ofList, String.toList_ofList]

/-- The text of a template with `w` for the variable. -/
def expanded (w t : String) : String := String.ofList (expand w.toList t.toList)

/-- The place between `t₁` and `t₂` is the first. -/
def FirstPlace (t₁ t₂ : String) : Prop :=
  ∀ a b, t₁ ++ "+v+" ++ t₂ = a ++ "+v+" ++ b → t₁.length ≤ a.length

theorem expanded_native (w a b : String) :
    expanded w (a ++ "id(+v+)" ++ b) = expanded w a ++ ("id(" ++ w ++ ")") ++ expanded w b := by
  have ht : (a ++ "id(+v+)" ++ b).toList =
      a.toList ++ 'i' :: ('d' :: '(' :: (mark ++ ')' :: b.toList)) := by
    simp [mark]
  have hi := expand_append_cons w.toList (c := 'i') (by decide) a.toList
    ('d' :: '(' :: (mark ++ ')' :: b.toList))
  have hd : expand w.toList ('d' :: '(' :: (mark ++ ')' :: b.toList)) =
      'd' :: '(' :: (w.toList ++ ')' :: expand w.toList b.toList) := rfl
  refine String.toList_inj.1 ?_
  simp only [expanded, ht, hi, hd, String.toList_append, String.toList_ofList]
  simp

theorem expanded_first {w t₁ t₂ : String} (h : FirstPlace t₁ t₂) :
    expanded w (t₁ ++ "+v+" ++ t₂) = t₁ ++ w ++ expanded w t₂ := by
  have ht (a b : String) : (a ++ "+v+" ++ b).toList = a.toList ++ (mark ++ b.toList) := by
    simp [mark]
  have hf := expand_first w.toList (s := t₁.toList) (r := t₂.toList) fun a b hab => by
    have := h (String.ofList a) (String.ofList b) (String.toList_inj.1 (by simpa [ht] using hab))
    rwa [← String.length_toList, String.length_ofList] at this
  refine String.toList_inj.1 ?_
  simp only [expanded, ht, hf, String.toList_append, String.toList_ofList, List.append_assoc]

theorem expanded_of_not_holds {t : String} (h : ¬ Holds "+v+" t) (w : String) :
    expanded w t = t := by
  rw [expanded, expand_of_not_infix _ fun hi => h (holds_iff.2 hi), String.ofList_toList]

theorem not_holds_expanded {w : String} (hw : Text.isIdentifier w.toList = true) (hv : w ≠ "v")
    (t : String) : ¬ Holds "+v+" (expanded w t) := by
  rw [holds_iff, expanded, String.toList_ofList, String.toList_ofList]
  refine not_infix_expand (fun hp => ?_) (fun hn => ?_) (fun h => hv (String.toList_inj.1 h)) _
  · exact absurd (Text.isNameChar_of_identifier hw '+' hp) (by decide)
  · rw [hn] at hw
    cases hw

/-- **What a template says of a variable.** A place in `id(+v+)` takes the variable whatever stands
around it, and native templates are those with such a place. The first place of a template takes the
variable and the rest is expanded, a template without a place is itself. An identifier other than
`v` leaves no place to expand. -/
theorem expanded_template :
    (∀ (e : MatchEntry) (w : String), e.operand w = expanded w e.template) ∧
    (∀ w a b : String, expanded w (a ++ "id(+v+)" ++ b) =
      expanded w a ++ ("id(" ++ w ++ ")") ++ expanded w b) ∧
    (∀ e : MatchEntry, e.isNative = true ↔ ∃ a b, e.template = a ++ "id(+v+)" ++ b) ∧
    (∀ w t₁ t₂ : String, FirstPlace t₁ t₂ →
      expanded w (t₁ ++ "+v+" ++ t₂) = t₁ ++ w ++ expanded w t₂) ∧
    (∀ w t : String, (¬ ∃ a b, t = a ++ "+v+" ++ b) → expanded w t = t) ∧
    ∀ w t : String, Text.isIdentifier w.toList = true → w ≠ "v" →
      (¬ ∃ a b, expanded w t = a ++ "+v+" ++ b) ∧
        ∀ w', expanded w' (expanded w t) = expanded w t := by
  refine ⟨fun _ _ => rfl, expanded_native, fun e => ?_, fun w t₁ t₂ h => expanded_first h,
    fun w t h => expanded_of_not_holds h w, fun w t hw hv => ?_⟩
  · rw [isNative, occurs_iff]
    exact holds_iff.symm
  · have h := not_holds_expanded hw hv t
    exact ⟨h, expanded_of_not_holds h⟩

/-- The first of two places that overlap takes the variable, and then the second is none. -/
theorem expanded_template_overlap :
    FirstPlace "+" "v+ = id(+v+)" ∧
      expanded "u" ("+" ++ "+v+" ++ "v+ = id(+v+)") = "+uv+ = id(u)" ∧
      ∀ w', expanded w' "+uv+ = id(u)" = "+uv+ = id(u)" := by
  obtain ⟨-, hid, -, hfirst, -, hlast⟩ := expanded_template
  have hp : FirstPlace "+" "v+ = id(+v+)" := by
    intro a b h
    refine Nat.one_le_iff_ne_zero.2 fun h0 => ?_
    obtain rfl : a = "" := by simpa using h0
    have h2 := congrArg (fun s => s.toList[1]?) h
    simp at h2
  have he : expanded "u" ("+" ++ "+v+" ++ "v+ = id(+v+)") = "+uv+ = id(u)" := by
    rw [hfirst "u" _ _ hp]
    have := hid "u" "v+ = " ""
    exact (congrArg (("+" ++ "u") ++ ·) this).trans rfl
  exact ⟨hp, he, fun w' => by rw [← he]; exact (hlast "u" _ (by decide) (by decide)).2 w'⟩

end CypherFragments.MatchEntry
