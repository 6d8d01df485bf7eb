import CypherFragments.Config.Validation

/-!
# The rules of a valid configuration

`Config.violations_eq_nil`: no rule is broken iff all names but the prefix are identifiers, the
prefix has name characters only, and the ends of a relationship have different variables.
-/

set_option autoImplicit false

namespace CypherFragments.Config

open Text

variable {c : Config}

theorem checkIdentifier_eq_nil {s : Setting} :
    c.checkIdentifier s = [] ↔ isIdentifier (c.get s).toList = true := by
  unfold checkIdentifier
  split <;> simp [*]

theorem checkPrefix_eq_nil :
    c.checkPrefix = [] ↔ ∀ x ∈ c.paramPrefix.toList, isAsciiNameChar x = true := by
  unfold checkPrefix
  rw [← List.all_eq_true]
  split <;> simp [*]

theorem fieldViolations_eq_nil :
    c.fieldViolations = [] ↔
      (∀ s, s ≠ .paramPrefix → isIdentifier (c.get s).toList = true) ∧
      ∀ x ∈ c.paramPrefix.toList, isAsciiNameChar x = true := by
  simp only [fieldViolations, List.append_eq_nil_iff, checkIdentifier_eq_nil, checkPrefix_eq_nil]
  constructor
  · rintro ⟨⟨⟨⟨he, hp⟩, hs⟩, ht⟩, hv⟩
    refine ⟨fun s hne => ?_, hp⟩
    cases s with
    | tagName => exact ht
    | var => exact hv
    | startVar => exact hs
    | endVar => exact he
    | paramPrefix => exact absurd rfl hne
  · rintro ⟨h, hp⟩
    exact ⟨⟨⟨⟨h .endVar (by decide), hp⟩, h .startVar (by decide)⟩, h .tagName (by decide)⟩,
      h .var (by decide)⟩

theorem violations_eq_nil :
    c.violations = [] ↔
      ((∀ s, s ≠ .paramPrefix → isIdentifier (c.get s).toList = true) ∧
        ∀ x ∈ c.paramPrefix.toList, isAsciiNameChar x = true) ∧
      c.startVar ≠ c.endVar := by
  rw [← fieldViolations_eq_nil]
  simp only [violations, List.isEmpty_iff]
  by_cases hf : c.fieldViolations = []
  · by_cases he : c.startVar = c.endVar <;> simp [hf, he]
  · simp [hf]

end CypherFragments.Config
