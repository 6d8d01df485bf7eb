import CypherFragments.Text.Name

/-!
# Names of parameters

`Text.IsName s`: `s` can be the whole name of a placeholder. `Text.Dollarless s`: no placeholder
starts in `s`. `Text.EndsName r`: a placeholder that stands before `r` does not reach into it.
-/

set_option autoImplicit false

namespace CypherFragments.Text

/-! ## Single characters -/

theorem toNat_lt_of_isAlpha {c : Char} (h : c.isAlpha = true) : c.toNat < 0x80 := by
  have hZ : UInt32.toNat 'Z'.val = 90 := rfl
  have hz : UInt32.toNat 'z'.val = 122 := rfl
  have hc : c.toNat = c.val.toNat := rfl
  rcases Bool.or_eq_true_iff.1 (show (c.isUpper || c.isLower) = true from h) with h | h
  · have hu : _ ∧ c.val ≤ 'Z'.val := of_decide_eq_true h
    rw [UInt32.le_iff_toNat_le] at hu
    omega
  · have hl : c.val ≤ 'z'.val := of_decide_eq_true (Bool.and_eq_true_iff.1 h).2
    rw [UInt32.le_iff_toNat_le] at hl
    omega

theorem toNat_lt_of_isDigit {c : Char} (h : c.isDigit = true) : c.toNat < 0x80 := by
  simp only [Char.isDigit, Bool.and_eq_true, decide_eq_true_eq, ge_iff_le,
    UInt32.le_iff_toNat_le, Char.toNat] at *
  have h9 : UInt32.toNat '9'.val = 57 := rfl
  omega

theorem isNameChar_of_ascii {c : Char} (h : isAsciiNameChar c = true) : isNameChar c = true := by
  unfold isAsciiNameChar at h
  unfold isNameChar isAlphanumeric isAlphabetic isNumeric
  rw [Bool.or_eq_true, Char.isAlphanum, Bool.or_eq_true] at h
  rcases h with (h | h) | h
  · simp [toNat_lt_of_isAlpha h, h]
  · simp [toNat_lt_of_isDigit h, h]
  · simp [h]

theorem ne_dollar_of_isNameChar {c : Char} (h : isNameChar c = true) : c ≠ '$' := by
  rintro rfl
  revert h
  decide

/-! ## Runs of characters -/

/-- The longest run of a class before `r` is all that stands there, if `r` does not continue it. -/
theorem takeWhile_run {p : Char → Bool} {s r : List Char} (hs : ∀ c ∈ s, p c = true)
    (hr : ∀ c ∈ r.head?, p c = false) : (s ++ r).takeWhile p = s := by
  rw [List.takeWhile_append_of_pos hs]
  cases r with
  | nil => simp
  | cons c r => simp [hr c rfl]

theorem dropWhile_run {p : Char → Bool} {s r : List Char} (hs : ∀ c ∈ s, p c = true)
    (hr : ∀ c ∈ r.head?, p c = false) : (s ++ r).dropWhile p = r := by
  rw [List.dropWhile_append_of_pos hs]
  cases r with
  | nil => rfl
  | cons c r => simp [hr c rfl]

/-! ## Names -/

/-- Name characters, at least one. -/
def IsName (s : String) : Prop := s ≠ "" ∧ ∀ c ∈ s.toList, isNameChar c = true

instance (s : String) : Decidable (IsName s) :=
  decidable_of_iff (s ≠ "" ∧ s.toList.all isNameChar = true) (and_congr Iff.rfl List.all_eq_true)

theorem IsName.prefixed {p s : String} (hp : ∀ c ∈ p.toList, isNameChar c = true)
    (hs : IsName s) : IsName (p ++ s) := by
  refine ⟨fun h => hs.1 ?_, fun c hc => ?_⟩
  · exact (String.append_eq_empty_iff.1 h).2
  · rw [String.toList_append, List.mem_append] at hc
    exact hc.elim (hp c) (hs.2 c)

/-- Nothing, or a character that is no part of a name, comes first. -/
def EndsName (r : List Char) : Prop := ∀ c ∈ r.head?, isNameChar c = false

theorem EndsName.nil : EndsName [] := fun _ h => by cases h

theorem EndsName.cons {c : Char} (h : isNameChar c = false) (r : List Char) :
    EndsName (c :: r) := fun _ hd => Option.some.inj hd ▸ h

theorem EndsName.append {r t : List Char} (hr : EndsName r) (ht : EndsName t) :
    EndsName (r ++ t) := by
  cases r with
  | nil => exact ht
  | cons c r => exact .cons (hr c rfl) _

/-- The longest run of name characters before `r` is the name that stands there. -/
theorem takeWhile_name {s r : List Char} (hs : ∀ c ∈ s, isNameChar c = true) (hr : EndsName r) :
    (s ++ r).takeWhile isNameChar = s := takeWhile_run hs hr

theorem dropWhile_name {s r : List Char} (hs : ∀ c ∈ s, isNameChar c = true) (hr : EndsName r) :
    (s ++ r).dropWhile isNameChar = r := dropWhile_run hs hr

/-! ## Texts without placeholders -/

def Dollarless (s : String) : Prop := '$' ∉ s.toList

instance (s : String) : Decidable (Dollarless s) := inferInstanceAs (Decidable (¬ _))

theorem dollarless_append {s t : String} :
    Dollarless (s ++ t) ↔ Dollarless s ∧ Dollarless t := by
  unfold Dollarless
  rw [String.toList_append, List.mem_append, not_or]

theorem Dollarless.append {s t : String} (hs : Dollarless s) (ht : Dollarless t) :
    Dollarless (s ++ t) := dollarless_append.2 ⟨hs, ht⟩

theorem dollarless_of_nameChars {s : String} (h : ∀ c ∈ s.toList, isNameChar c = true) :
    Dollarless s := fun hm => ne_dollar_of_isNameChar (h _ hm) rfl

/-- The characters of an identifier are name characters. -/
theorem isNameChar_of_identifier {s : List Char} (h : isIdentifier s = true) :
    ∀ c ∈ s, isNameChar c = true := by
  cases s with
  | nil => intro c hc; cases hc
  | cons d s =>
    simp only [isIdentifier, Bool.and_eq_true, List.all_eq_true] at h
    intro c hc
    rcases List.mem_cons.1 hc with rfl | hc
    · refine isNameChar_of_ascii ?_
      rw [isAsciiNameChar, Char.isAlphanum, Bool.or_assoc]
      rw [Bool.or_eq_true] at h ⊢
      exact h.1.imp id fun h => by rw [h, Bool.or_true]
    · exact isNameChar_of_ascii (h.2 c hc)

end CypherFragments.Text
