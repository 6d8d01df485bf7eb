import CypherFragments.CommandLine.Run
import CypherFragments.Proofs.Config.Rules

/-!
# Layers of a configuration

Each step of a run writes some settings, and what is written last counts. On the command line the
layers are the flags, the environment, the file and the defaults.

* `Config.get_apply`, `Config.clause_apply`: what a step writes.
* `Config.get_applyAll`, `Config.clause_applyAll`: what a run leaves is what its last writer wrote.
* `Invocation.applyAll_configSteps`: the layers of an invocation, setting by setting.
* `Invocation.config_eq_ok`: a file has to be valid before anything goes over it, and so has the
  result.
-/

set_option autoImplicit false

namespace CypherFragments

theorem Except.mapError_eq_ok {ε δ α : Type} {x : Except ε α} {f : ε → δ} {a : α} :
    x.mapError f = .ok a ↔ x = .ok a := by
  cases x with
  | error e => constructor <;> intro h <;> cases h
  | ok b => exact ⟨fun h => congrArg _ (Except.ok.inj h), fun h => congrArg _ (Except.ok.inj h)⟩

/-- Of pairs that are made from their keys, each key has the value made from it. -/
theorem lookup_filterMap_pair {κ β : Type} [DecidableEq κ] (g : κ → Option β) (k : κ) :
    ∀ l : List κ,
      (l.filterMap fun a => (g a).map (a, ·)).lookup k = if k ∈ l then g k else none
  | [] => rfl
  | a :: l => by
    have ih := lookup_filterMap_pair g k l
    by_cases hk : k = a
    · subst hk
      cases hg : g k with
      | none => simp [hg, ih]
      | some v => simp [hg]
    · cases hg : g a with
      | none => simp [hg, ih, hk]
      | some v => simp [hg, ih, hk, List.lookup_cons, beq_eq_false_iff_ne.2 hk]

namespace Config

variable {c d : Config}

theorem ext_get (h : ∀ s, c.get s = d.get s) (hc : c.clause = d.clause) : c = d := by
  obtain ⟨t, v, a, b, p, m⟩ := c
  obtain ⟨t', v', a', b', p', m'⟩ := d
  obtain rfl : t = t' := h .tagName
  obtain rfl : v = v' := h .var
  obtain rfl : a = a' := h .startVar
  obtain rfl : b = b' := h .endVar
  obtain rfl : p = p' := h .paramPrefix
  obtain rfl : m = m' := hc
  rfl

theorem get_setAll (s : Setting) : ∀ (l : List (Setting × String)) (c : Config),
    (c.setAll l).get s = (l.reverse.lookup s).getD (c.get s)
  | [], _ => rfl
  | (t, value) :: l, c => by
    refine (get_setAll s l (c.set t value)).trans ?_
    rw [List.reverse_cons, List.lookup_append, Option.getD_or, get_set, List.lookup_cons]
    by_cases h : s = t
    · simp [h]
    · simp [h, beq_eq_false_iff_ne.2 h]

theorem clause_setAll : ∀ (l : List (Setting × String)) (c : Config),
    (c.setAll l).clause = c.clause
  | [], _ => rfl
  | p :: l, c => (clause_setAll l (c.set p.1 p.2)).trans (clause_set c p.1 p.2)

/-! ## One step -/

/-- What a step writes into a setting. -/
def Step.value? (s : Setting) : Step → Option String
  | set t value => if t = s then some value else none
  | clause _ => none
  | environment env => env.text? s.environmentName

/-- What a step writes as the clause. -/
def Step.clause? : Step → Option MatchClause
  | clause m => some m
  | set _ _ | environment _ => none

/-- The environment gives a setting the text of its variable. -/
theorem lookup_overrides (env : Environment) (s : Setting) :
    (overrides env).reverse.lookup s = env.text? s.environmentName := by
  have hs : s ∈ Setting.all.reverse := by cases s <;> decide
  rw [overrides, ← List.filterMap_reverse, lookup_filterMap_pair, if_pos hs]

theorem get_apply (c : Config) (step : Step) (s : Setting) :
    (c.apply step).get s = (step.value? s).getD (c.get s) := by
  cases step with
  | set t value =>
    rw [apply, get_set, Step.value?]
    by_cases h : s = t
    · simp [h]
    · simp [h, Ne.symm h]
  | clause m => cases s <;> rfl
  | environment env => rw [apply, get_setAll, lookup_overrides, Step.value?]

theorem clause_apply (c : Config) (step : Step) :
    (c.apply step).clause = step.clause?.getD c.clause := by
  cases step with
  | set t value => exact clause_set c t value
  | clause m => rfl
  | environment env => exact clause_setAll _ c

/-! ## A run of steps -/

theorem get_applyAll (s : Setting) : ∀ (steps : List Step) (c : Config),
    (c.applyAll steps).get s = (steps.reverse.findSome? (·.value? s)).getD (c.get s)
  | [], _ => rfl
  | step :: steps, c => by
    refine (get_applyAll s steps (c.apply step)).trans ?_
    rw [List.reverse_cons, List.findSome?_append, Option.getD_or, get_apply, List.findSome?_cons]
    cases step.value? s <;> rfl

theorem clause_applyAll : ∀ (steps : List Step) (c : Config),
    (c.applyAll steps).clause = (steps.reverse.findSome? (·.clause?)).getD c.clause
  | [], _ => rfl
  | step :: steps, c => by
    refine (clause_applyAll steps (c.apply step)).trans ?_
    rw [List.reverse_cons, List.findSome?_append, Option.getD_or, clause_apply, List.findSome?_cons]
    cases step.clause? <;> rfl

end Config

/-! ## The layers of an invocation -/

/-- What can be seen where every file holds the text. -/
def World.ofFile (text : String) (vars : List (String × String)) : World where
  environment name := (vars.lookup name).map String.toUTF8
  files _ := some text.toUTF8

namespace Invocation

variable (i : Invocation) (w : World)

/-- What the flags say of a setting; if it is said again, the last counts. -/
def flag? (s : Setting) : Option String := i.settings.reverse.lookup s

/-- The configuration that the file holds, valid or not, or the defaults if there is no file. -/
def base? : Option Config :=
  match i.configFile with
  | none => some .default
  | some path => (Config.Route.file (w.files path)).found?

/-- A setting is what its flag says, else its environment variable, else the configuration below. -/
def layer (base : Config) (s : Setting) : String :=
  ((i.flag? s).or (w.environment.text? s.environmentName)).getD (base.get s)

/-- The layers over `base`, field by field. -/
def layered (base : Config) : Config where
  tagName := i.layer w base .tagName
  var := i.layer w base .var
  startVar := i.layer w base .startVar
  endVar := i.layer w base .endVar
  paramPrefix := i.layer w base .paramPrefix
  clause := if i.defaultMatch.isEmpty then base.clause else .ofList i.defaultMatch

theorem get_layered (base : Config) (s : Setting) :
    (i.layered w base).get s = i.layer w base s := by
  cases s <;> rfl

/-- The flags write after the environment. -/
theorem findSome?_value_configSteps (s : Setting) :
    (i.configSteps w).reverse.findSome? (·.value? s) =
      (i.flag? s).or (w.environment.text? s.environmentName) := by
  have hf : (i.settings.map fun p => Config.Step.set p.1 p.2).reverse.findSome? (·.value? s) =
      i.flag? s := by
    rw [flag?, List.lookup_eq_findSome?, ← List.map_reverse, List.findSome?_map]
    refine congrArg (i.settings.reverse.findSome? ·) (funext fun p => ?_)
    simp only [Function.comp, Config.Step.value?, beq_iff_eq, @eq_comm _ s p.1]
  have he : [Config.Step.environment w.environment].findSome? (·.value? s) =
      w.environment.text? s.environmentName := by
    simp [Config.Step.value?]
  rw [configSteps, List.reverse_append, List.reverse_cons, List.findSome?_append,
    List.findSome?_append, hf, he]
  split <;> rfl

theorem findSome?_clause_configSteps :
    (i.configSteps w).reverse.findSome? (·.clause?) =
      if i.defaultMatch.isEmpty then none else some (.ofList i.defaultMatch) := by
  have hf : (i.settings.map fun p => Config.Step.set p.1 p.2).reverse.findSome? (·.clause?) =
      none := by
    rw [← List.map_reverse, List.findSome?_map, List.findSome?_eq_none_iff]
    exact fun _ _ => rfl
  rw [configSteps, List.reverse_append, List.reverse_cons, List.findSome?_append,
    List.findSome?_append, hf]
  split <;> rfl

/-- The steps of an invocation leave its layers. -/
theorem applyAll_configSteps (base : Config) :
    base.applyAll (i.configSteps w) = i.layered w base := by
  refine Config.ext_get (fun s => ?_) ?_
  · rw [Config.get_applyAll, findSome?_value_configSteps, get_layered, layer]
  · rw [Config.clause_applyAll, findSome?_clause_configSteps]
    show _ = if i.defaultMatch.isEmpty then base.clause else .ofList i.defaultMatch
    split <;> rfl

variable {i w}

theorem baseConfig_eq_ok {base : Config} :
    i.baseConfig w = .ok base ↔ i.base? w = some base ∧ (i.configFile.isSome → base.Rules) := by
  unfold baseConfig base?
  cases i.configFile with
  | none => simp
  | some path =>
    refine Except.mapError_eq_ok.trans (Config.ofFile_eq_ok.trans ?_)
    exact and_congr_right fun _ => by simp

theorem config_eq_ok {c : Config} :
    i.config w = .ok c ↔ ∃ base, (i.base? w = some base ∧ (i.configFile.isSome → base.Rules)) ∧
      (i.layered w base).Rules ∧ c = i.layered w base := by
  simp only [config, Except.bind_eq_ok, baseConfig_eq_ok, Except.mapError_eq_ok, Config.build,
    Config.validate_eq_ok, applyAll_configSteps]

/-- **The layers of a command line are accepted iff they are valid and so is the file under them.**
What is accepted is the flags over the environment over the file over the defaults. -/
theorem config_layered {base : Config} (hb : i.base? w = some base) (c : Config) :
    i.config w = .ok c ↔ (i.configFile.isSome → base.Rules) ∧ (i.layered w base).Rules ∧
      c = i.layered w base := by
  rw [config_eq_ok]
  constructor
  · rintro ⟨base', ⟨hb', hr⟩, h⟩
    obtain rfl := Option.some.inj (hb.symm.trans hb')
    exact ⟨hr, h⟩
  · rintro ⟨hr, h⟩
    exact ⟨base, ⟨hb, hr⟩, h⟩

/-- An invocation with a configuration file and flags. -/
def withFile (settings : List (Setting × String)) : Invocation where
  configFile := some "c.yaml"
  settings := settings
  defaultMatch := []
  inlined := false
  command := .node ⟨"\x7b\x7d", "User", none⟩

/-- A setting of each layer, and one that all of them write. -/
theorem config_layered_all :
    (withFile [(.var, "f")]).config (.ofFile "variable: n\nstart_variable: a"
        [("GRAPHFRAG_VARIABLE", "e"), ("GRAPHFRAG_END_VARIABLE", "z")]) =
      .ok ⟨"json", "f", "a", "z", "", .native "id"⟩ := by
  have hb : (withFile [(.var, "f")]).base? (.ofFile "variable: n\nstart_variable: a"
      [("GRAPHFRAG_VARIABLE", "e"), ("GRAPHFRAG_END_VARIABLE", "z")]) =
        some { Config.default with var := "n", startVar := "a" } := by
    decide +kernel
  exact (config_layered hb _).2 ⟨fun _ => by decide, by decide +kernel, by decide +kernel⟩

/-- The file alone has a bad name. The flag over it makes the layers valid, but is not looked at. -/
theorem config_layered_refused :
    (withFile [(.var, "v")]).base? (.ofFile "variable: 1v" []) =
        some { Config.default with var := "1v" } ∧
      ((withFile [(.var, "v")]).layered (.ofFile "variable: 1v" [])
        { Config.default with var := "1v" }).Rules ∧
      ∀ c, (withFile [(.var, "v")]).config (.ofFile "variable: 1v" []) ≠ .ok c := by
  have hb : (withFile [(.var, "v")]).base? (.ofFile "variable: 1v" []) =
      some { Config.default with var := "1v" } := by
    decide +kernel
  refine ⟨hb, by decide +kernel, fun c h => ?_⟩
  obtain ⟨base, ⟨hb', hr⟩, -⟩ := config_eq_ok.1 h
  obtain rfl := Option.some.inj (hb.symm.trans hb')
  exact absurd (hr rfl) (by decide)

end Invocation

end CypherFragments
