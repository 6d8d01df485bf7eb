import CypherFragments.Proofs.Literal.Reader

/-!
# Texts of numbers

`Number.isNumberText`: the text of a number, integer or float, is a run of at least one character of
numbers, so that `Literal.Reader.scalar` takes the whole of it.
-/

set_option autoImplicit false

namespace CypherFragments

open Literal.Reader

/-! ## Runs of digits -/

theorem isNumberChar_of_mem_toDigits {n : Nat} {c : Char} (h : c ∈ Nat.toDigits 10 n) :
    isNumberChar c = true := by
  have hd : c.isDigit = true := Nat.isDigit_of_mem_toDigits (by decide) (by decide) h
  simp [isNumberChar, hd]

/-- At least one character, all of them of numbers. -/
def IsNumberText (s : List Char) : Prop := s ≠ [] ∧ ∀ c ∈ s, isNumberChar c = true

theorem IsNumberText.toDigits (n : Nat) : IsNumberText (Nat.toDigits 10 n) :=
  ⟨Nat.toDigits_ne_nil, fun _ h => isNumberChar_of_mem_toDigits h⟩

theorem IsNumberText.cons {c : Char} {s : List Char} (hc : isNumberChar c = true)
    (hs : IsNumberText s) : IsNumberText (c :: s) := by
  refine ⟨List.cons_ne_nil c s, fun d hd => ?_⟩
  rcases List.mem_cons.1 hd with rfl | hd
  · exact hc
  · exact hs.2 d hd

theorem IsNumberText.append {s t : List Char} (hs : IsNumberText s)
    (ht : ∀ c ∈ t, isNumberChar c = true) : IsNumberText (s ++ t) := by
  refine ⟨fun h => hs.1 (List.append_eq_nil_iff.1 h).1, fun c hc => ?_⟩
  exact (List.mem_append.1 hc).elim (hs.2 c) (ht c)

/-! ## Floats -/

namespace Decimal

theorem isNumberChar_of_mem_zeros {n : Nat} {c : Char} (h : c ∈ zeros n) :
    isNumberChar c = true := by
  rw [List.eq_of_mem_replicate h]
  decide

theorem isNumberText_layout {ds : List Char} (h : IsNumberText ds) (e : Int) :
    IsNumberText (layout ds e) := by
  have htake (n : Nat) : IsNumberText (ds.take (n + 1)) := by
    refine ⟨fun hn => ?_, fun c hc => h.2 c (List.mem_of_mem_take hc)⟩
    exact (List.take_eq_nil_iff.1 hn).elim (Nat.succ_ne_zero n) h.1
  have hdrop (n : Nat) : ∀ c ∈ '.' :: ds.drop n, isNumberChar c = true :=
    List.forall_mem_cons.2 ⟨by decide, fun c hc => h.2 c (List.mem_of_mem_drop hc)⟩
  unfold layout
  split
  · split
    · have hz : IsNumberText ['0', '.'] := ⟨by simp, List.all_eq_true.1 (by decide)⟩
      exact (hz.append fun c => isNumberChar_of_mem_zeros).append h.2
    · show IsNumberText (if _ then _ else _)
      split
      · exact (h.append fun c => isNumberChar_of_mem_zeros).append (List.all_eq_true.1 (by decide))
      · rw [List.append_assoc]
        exact (htake _).append (hdrop _)
  · refine (((((htake 0).append ?_).append (List.all_eq_true.1 (by decide))).append ?_).append
      (IsNumberText.toDigits _).2)
    · split
      · exact fun _ hc => nomatch hc
      · exact hdrop 1
    · split <;> exact List.all_eq_true.1 (by decide)

theorem Binary64.isNumberText (x : Binary64) : IsNumberText x.text := by
  have hm : IsNumberText x.magnitude := by
    unfold magnitude
    split
    · exact ⟨by simp, List.all_eq_true.1 (by decide)⟩
    · exact isNumberText_layout (.toDigits _) _
  unfold text
  split
  · exact hm.cons (by decide)
  · exact hm

end Decimal

theorem Number.isNumberText (n : Number) : IsNumberText n.text := by
  cases n with
  | int n =>
    show IsNumberText (if n < 0 then _ else _)
    split
    · exact (IsNumberText.toDigits _).cons (by decide)
    · exact .toDigits _
  | float x => exact x.isNumberText

end CypherFragments
