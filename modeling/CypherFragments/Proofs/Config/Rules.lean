import CypherFragments.Compiler
import CypherFragments.Config.Yaml
import CypherFragments.Proofs.Config.Valid
import CypherFragments.Proofs.Operation

/-!
# What validation accepts and what it reports

`Config.Rules` says of a configuration that its names are written right and the ends of a
relationship are told apart. Validation decides just that, on every way to a configuration:

* `Config.fieldViolations_eq`: the bad names are reported in the order of their keys, each once.
* `Config.validate_eq_ok`, `Config.reports_of_validate`: what is accepted, and what is reported of
  the rest.
* `Config.Route.config_eq_ok`: a configuration comes by a route iff it was found there and is valid.
-/

set_option autoImplicit false

namespace CypherFragments

/-! ## Identifiers -/

namespace Text

/-- `[A-Za-z_]` -/
def StartsIdentifier (c : Char) : Prop := ('A' ≤ c ∧ c ≤ 'Z') ∨ ('a' ≤ c ∧ c ≤ 'z') ∨ c = '_'

/-- `[A-Za-z0-9_]` -/
def ContinuesIdentifier (c : Char) : Prop := StartsIdentifier c ∨ ('0' ≤ c ∧ c ≤ '9')

/-- A character that starts an identifier, and up to the end of the text only such as continue
it. -/
def IsIdentifier (s : String) : Prop :=
  ∃ c r, s.toList = c :: r ∧ StartsIdentifier c ∧ ∀ x ∈ r, ContinuesIdentifier x

theorem startsIdentifier_iff {c : Char} :
    StartsIdentifier c ↔ (c.isAlpha || c == '_') = true := by
  have hu : ('A' ≤ c ∧ c ≤ 'Z') ↔ c.isUpper = true := decide_eq_true_iff.symm
  have hl : ('a' ≤ c ∧ c ≤ 'z') ↔ c.isLower = true := by
    show _ ↔ (decide ('a' ≤ c) && decide (c ≤ 'z')) = true
    rw [Bool.and_eq_true, decide_eq_true_iff, decide_eq_true_iff]
  show _ ↔ ((c.isUpper || c.isLower) || c == '_') = true
  rw [StartsIdentifier, hu, hl, Bool.or_eq_true, Bool.or_eq_true, beq_iff_eq, or_assoc]

theorem continuesIdentifier_iff {c : Char} :
    ContinuesIdentifier c ↔ isAsciiNameChar c = true := by
  have hd : ('0' ≤ c ∧ c ≤ '9') ↔ c.isDigit = true := by
    simp only [Char.isDigit, Char.le_def, ge_iff_le, Bool.and_eq_true, decide_eq_true_eq]
  rw [ContinuesIdentifier, startsIdentifier_iff, hd, isAsciiNameChar, Char.isAlphanum]
  simp only [Bool.or_eq_true]
  exact or_right_comm

theorem isIdentifier_iff {s : String} : isIdentifier s.toList = true ↔ IsIdentifier s := by
  unfold IsIdentifier
  cases s.toList with
  | nil => simp [isIdentifier]
  | cons c r =>
    rw [isIdentifier, Bool.and_eq_true, ← startsIdentifier_iff, List.all_eq_true]
    simp only [← continuesIdentifier_iff]
    constructor
    · exact fun h => ⟨c, r, rfl, h⟩
    · rintro ⟨d, t, h, hd, ht⟩
      obtain ⟨rfl, rfl⟩ := List.cons.inj h
      exact ⟨hd, ht⟩

end Text

open Text

namespace Config

/-! ## The rules -/

/-- The rule for one name. -/
def Obeys (c : Config) : Setting → Prop
  | .paramPrefix => ∀ x ∈ c.paramPrefix.toList, ContinuesIdentifier x
  | s => IsIdentifier (c.get s)

/-- What makes a configuration valid. -/
structure Rules (c : Config) : Prop where
  names : ∀ s, c.Obeys s
  ends : c.startVar ≠ c.endVar

/-- What is reported of a name that does not obey its rule. -/
def row (c : Config) : Setting → Violation
  | .paramPrefix => .badPrefix c.paramPrefix
  | s => .notIdentifier s (c.get s)

variable {c : Config}

theorem obeys_paramPrefix :
    c.Obeys .paramPrefix ↔ ∀ x ∈ c.paramPrefix.toList, isAsciiNameChar x = true := by
  simp only [Obeys, continuesIdentifier_iff]

theorem obeys_iff {s : Setting} (hs : s ≠ .paramPrefix) :
    c.Obeys s ↔ isIdentifier (c.get s).toList = true := by
  rw [isIdentifier_iff]
  cases s with
  | paramPrefix => exact absurd rfl hs
  | tagName | var | startVar | endVar => rfl

theorem rules_iff : c.Rules ↔ c.violations = [] := by
  rw [violations_eq_nil, ← obeys_paramPrefix]
  constructor
  · intro h
    exact ⟨⟨fun s hs => (obeys_iff hs).1 (h.names s), h.names .paramPrefix⟩, h.ends⟩
  · rintro ⟨⟨hn, hp⟩, he⟩
    refine ⟨fun s => ?_, he⟩
    by_cases hs : s = .paramPrefix
    · exact hs ▸ hp
    · exact (obeys_iff hs).2 (hn s hs)

instance (c : Config) : DecidablePred c.Obeys
  | .tagName => decidable_of_iff _ (obeys_iff (by decide)).symm
  | .var => decidable_of_iff _ (obeys_iff (by decide)).symm
  | .startVar => decidable_of_iff _ (obeys_iff (by decide)).symm
  | .endVar => decidable_of_iff _ (obeys_iff (by decide)).symm
  | .paramPrefix => decidable_of_iff _ (List.all_eq_true.trans obeys_paramPrefix.symm)

instance (c : Config) : Decidable c.Rules := decidable_of_iff (c.violations = []) rules_iff.symm

/-! ## The report -/

/-- The settings in the order of their keys. -/
def byKey : List Setting := [.endVar, .paramPrefix, .startVar, .tagName, .var]

theorem byKey_perm : byKey.Perm Setting.all := by decide

theorem byKey_sorted : (byKey.map Setting.key).Pairwise (· < ·) := by decide

theorem field_row (c : Config) (s : Setting) : (c.row s).field = s.key := by
  cases s <;> rfl

theorem fieldViolations_eq (c : Config) :
    c.fieldViolations = (byKey.filter fun s => ¬ c.Obeys s).map c.row := by
  have hp : c.checkPrefix = if c.Obeys .paramPrefix then [] else [c.row .paramPrefix] := by
    simp only [obeys_paramPrefix, ← List.all_eq_true]
    rfl
  have hi {s : Setting} (hs : s ≠ .paramPrefix) :
      c.checkIdentifier s = if c.Obeys s then [] else [c.row s] := by
    simp only [obeys_iff hs]
    cases s with
    | paramPrefix => exact absurd rfl hs
    | tagName | var | startVar | endVar => rfl
  have hr : ∀ l : List Setting,
      (l.filter fun s => ¬ c.Obeys s).map c.row =
        l.flatMap fun s => if c.Obeys s then [] else [c.row s] := by
    intro l
    induction l with
    | nil => rfl
    | cons s l ih => by_cases h : c.Obeys s <;> simpa [h] using ih
  rw [hr]
  simp only [fieldViolations, hi, hp, byKey, List.flatMap_cons, List.flatMap_nil, List.append_nil,
    List.append_assoc, ne_eq, reduceCtorEq, not_false_eq_true]

/-- What is reported of a configuration that breaks a rule. -/
structure Reports (c : Config) (rows : List Violation) : Prop where
  /-- One row for each name that breaks its rule, none for the others. -/
  names : (∃ s, ¬ c.Obeys s) → rows.Perm ((Setting.all.filter fun s => ¬ c.Obeys s).map c.row)
  /-- The rows are sorted by their fields. -/
  sorted : (rows.map (·.field)).Pairwise (· < ·)
  /-- Only names that are written right are compared. -/
  ends : (∀ s, c.Obeys s) → rows = [.sameEndpoints]

theorem fieldViolations_eq_nil_iff : c.fieldViolations = [] ↔ ∀ s, c.Obeys s := by
  rw [fieldViolations_eq, List.map_eq_nil_iff, List.filter_eq_nil_iff]
  have hm (s : Setting) : s ∈ byKey := by cases s <;> decide
  simp [hm]

theorem reports_violations (h : ¬ c.Rules) : c.Reports c.violations := by
  by_cases hf : c.fieldViolations = []
  · have ho : ∀ s, c.Obeys s := fieldViolations_eq_nil_iff.1 hf
    have he : c.startVar = c.endVar := Decidable.byContradiction fun hne => h ⟨ho, hne⟩
    have hv : c.violations = [.sameEndpoints] := by simp [violations, hf, he]
    rw [hv]
    exact ⟨fun hn => hn.elim fun s hs => absurd (ho s) hs, by simp, fun _ => rfl⟩
  · have hv : c.violations = c.fieldViolations := by simp [violations, hf]
    rw [hv]
    refine ⟨fun _ => ?_, ?_, fun ho => absurd (fieldViolations_eq_nil_iff.2 ho) hf⟩
    · rw [fieldViolations_eq]
      exact (byKey_perm.filter _).map _
    · rw [fieldViolations_eq, List.map_map]
      have hk : Violation.field ∘ c.row = Setting.key := funext c.field_row
      rw [hk]
      exact byKey_sorted.sublist (List.filter_sublist.map _)

theorem validate_eq_ok {d : Config} : c.validate = .ok d ↔ c.Rules ∧ d = c := by
  rw [rules_iff, ← List.isEmpty_iff, validate]
  split <;> simp [*, eq_comm]

theorem reports_of_validate (h : ¬ c.Rules) :
    ∃ rows, c.validate = .error (.invalid rows) ∧ c.Reports rows := by
  refine ⟨c.violations, ?_, reports_violations h⟩
  rw [rules_iff, ← List.isEmpty_iff] at h
  simp [validate, h]

/-! ## The ways to a configuration -/

/-- Where a configuration comes from. -/
inductive Route
  /-- Steps from any configuration, valid or not. -/
  | build (start : Config) (steps : List Step)
  | environment (env : Environment)
  | yaml (text : String)
  | file (content : Option ByteArray)

namespace Route

def config : Route → Except ConfigError Config
  | build start steps => start.build steps
  | environment env => ofEnvironment env
  | yaml text => ofYaml text
  | file content => ofFile content

/-- The configuration that is found before it is validated. -/
def found? : Route → Option Config
  | build start steps => some (start.applyAll steps)
  | environment env => some (default.applyAll [.environment env])
  | yaml text => ofYaml? text
  | file content => (fileText content).toOption.bind ofYaml?

end Route

/-- What has been found is the configuration that is validated. -/
theorem validate_found {d : Config} : c.validate = .ok d ↔ some c = some d ∧ d.Rules := by
  rw [validate_eq_ok, Option.some.injEq]
  constructor
  · rintro ⟨h, rfl⟩
    exact ⟨rfl, h⟩
  · rintro ⟨rfl, h⟩
    exact ⟨h, rfl⟩

theorem ofYaml_eq_ok {text : String} {d : Config} :
    ofYaml text = .ok d ↔ ofYaml? text = some d ∧ d.Rules := by
  unfold ofYaml
  cases ofYaml? text with
  | none => simp
  | some c => exact validate_found

theorem ofFile_eq_ok {content : Option ByteArray} {d : Config} :
    ofFile content = .ok d ↔ (fileText content).toOption.bind ofYaml? = some d ∧ d.Rules := by
  unfold ofFile
  cases fileText content with
  | error e => simp [Except.toOption]
  | ok text => exact ofYaml_eq_ok

theorem Route.config_eq_ok {r : Route} {d : Config} :
    r.config = .ok d ↔ r.found? = some d ∧ d.Rules := by
  cases r with
  | build start steps => exact validate_found
  | environment env => exact validate_found
  | yaml text => exact ofYaml_eq_ok
  | file content => exact ofFile_eq_ok

end Config

theorem Compiler.ofConfig_eq_ok {c : Config} {k : Compiler} :
    ofConfig c = .ok k ↔ c.Rules ∧ k.config = c := by
  rw [Config.rules_iff]
  obtain ⟨d, hd⟩ := k
  unfold ofConfig
  split
  · simp [*, eq_comm]
  · simp [*]

namespace Config

/-- **Validation accepts the configurations that obey the rules, and no others.** Of the others it
reports each bad name once, or that the ends are the same where all names are good. So every route
leads to configurations that obey the rules, and every compiler holds one. -/
theorem validate_exact :
    (∀ c d : Config, c.validate = .ok d ↔ c.Rules ∧ d = c) ∧
    (∀ c : Config, ¬ c.Rules → ∃ rows, c.validate = .error (.invalid rows) ∧ c.Reports rows) ∧
    (∀ (r : Route) (d : Config), r.config = .ok d ↔ r.found? = some d ∧ d.Rules) ∧
    (∀ (c : Config) (k : Compiler), Compiler.ofConfig c = .ok k ↔ c.Rules ∧ k.config = c) ∧
    ∀ k : Compiler, k.config.Rules := by
  refine ⟨fun c d => validate_eq_ok, fun c h => reports_of_validate h,
    fun r d => Route.config_eq_ok, fun c k => Compiler.ofConfig_eq_ok, fun k => ?_⟩
  exact rules_iff.2 k.valid

/-- A line end after an identifier, and a letter that is not ASCII in the prefix. -/
theorem validate_exact_reported :
    ∃ rows, { default with var := "v\n", paramPrefix := "é" }.validate = .error (.invalid rows) ∧
      rows.Perm [.notIdentifier .var "v\n", .badPrefix "é"] := by
  obtain ⟨rows, hv, hr⟩ :=
    validate_exact.2.1 { default with var := "v\n", paramPrefix := "é" } (by decide)
  exact ⟨rows, hv, hr.names ⟨.var, by decide⟩⟩

end Config

end CypherFragments
