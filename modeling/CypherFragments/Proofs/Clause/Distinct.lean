import CypherFragments.Config.Yaml

/-!
# Distinct templates

A clause that is built entry by entry has one entry for each template, and inserting replaces it. A
clause that was read keeps its entries as they are, so it may repeat a template, and then inserting
changes the first of the entries only.

* `MatchClause.distinct_insert`, `MatchClause.ofTemplate_insert`: what one insertion does.
* `MatchClause.distinct_apply`: what a step does to a clause, given what was loaded before it.
* `MatchClause.distinct_run`: after a run of steps the templates are distinct iff they were in the
  clause that the run has loaded last, and only then inserting always leaves one entry.
-/

set_option autoImplicit false

namespace CypherFragments.MatchClause

/-- No two entries have the same template. -/
def Distinct (c : MatchClause) : Prop := (c.entries.map (·.template)).Nodup

instance : DecidablePred Distinct := fun _ => inferInstanceAs (Decidable (List.Nodup _))

/-- The entries of a template. -/
def ofTemplate (c : MatchClause) (template : String) : List MatchEntry :=
  c.entries.filter (·.template = template)

/-! ## One insertion -/

theorem distinct_empty : empty.Distinct := List.nodup_nil

theorem distinct_insert {c : MatchClause} {template param : String} :
    (c.insert template param).Distinct ↔ c.Distinct := by
  refine ⟨fun h => ?_, nodup_upsert _ _⟩
  have hk := map_key_upsert MatchEntry.template ⟨template, param⟩ c.entries
  unfold Distinct insert at h
  rw [hk] at h
  split at h
  · exact h
  · exact (List.nodup_append.1 h).1

/-- The first entry of the template takes the parameter, the others stay. -/
theorem ofTemplate_insert (c : MatchClause) (template param : String) :
    (c.insert template param).ofTemplate template =
      ⟨template, param⟩ :: (c.ofTemplate template).tail := by
  unfold ofTemplate insert
  generalize c.entries = l
  induction l with
  | nil => simp [upsert]
  | cons e l ih =>
    unfold upsert
    by_cases h : e.template = template
    · simp [h]
    · simp only [h, if_false, decide_false, List.filter_cons, Bool.false_eq_true]
      exact ih

theorem distinct_iff_ofTemplate {c : MatchClause} :
    c.Distinct ↔ ∀ template, (c.ofTemplate template).tail = [] := by
  have count (template : String) :
      (c.entries.map (·.template)).count template = (c.ofTemplate template).length := by
    rw [List.count, List.countP_map, ofTemplate, List.countP_eq_length_filter]
    refine congrArg List.length (List.filter_congr fun e _ => ?_)
    rw [Bool.eq_iff_iff, Function.comp, beq_iff_eq, decide_eq_true_iff]
  unfold Distinct
  rw [List.nodup_iff_count]
  refine forall_congr' fun template => ?_
  rw [count, ← List.length_eq_zero_iff, List.length_tail]
  omega

theorem distinct_native (param : String) : (native param).Distinct :=
  distinct_insert.2 distinct_empty

/-- A clause that is collected from pairs has distinct templates, whatever the pairs. -/
theorem distinct_ofList (l : List (String × String)) : (ofList l).Distinct := by
  suffices h : ∀ c : MatchClause, c.Distinct →
      (l.foldl (fun c p => c.insert p.1 p.2) c).Distinct from h empty distinct_empty
  induction l with
  | nil => exact fun c h => h
  | cons p l ih => exact fun c h => ih (c.insert p.1 p.2) (distinct_insert.2 h)

/-! ## Runs -/

/-- What a text is read as. -/
inductive Format
  | json
  | yaml
  /-- A whole configuration, which has to be valid. -/
  | jsonConfig
  | yamlConfig

/-- The clause in a text. -/
def Format.load? (text : String) : Format → Option MatchClause
  | json => (ofJson? text).toOption
  | yaml => ofYaml? text
  | jsonConfig => do
    let c ← (Config.ofJson? text).toOption
    (c.validate.toOption).map (·.clause)
  | yamlConfig => (Config.ofYaml text).toOption.map (·.clause)

/-- How a clause can be built. -/
inductive Step
  | new
  | native (param : String)
  | insert (template param : String)
  | collect (pairs : List (String × String))
  | load (format : Format) (text : String)

/-- A text that cannot be read leaves the clause as it is. -/
def apply (c : MatchClause) : Step → MatchClause
  | .new => empty
  | .native param => native param
  | .insert template param => c.insert template param
  | .collect pairs => ofList pairs
  | .load format text => (format.load? text).getD c

def run (steps : List Step) : MatchClause := steps.foldl apply empty

/-- The clause that has been loaded and not been replaced since, after one more step. -/
def Step.loaded (last : Option MatchClause) : Step → Option MatchClause
  | new | native _ | collect _ => none
  | insert _ _ => last
  | load format text => (format.load? text).or last

/-- The clause that a run has loaded last, if it goes back to it. -/
def lastLoaded (steps : List Step) : Option MatchClause := steps.foldl Step.loaded none

theorem distinct_apply {c : MatchClause} {last : Option MatchClause}
    (h : c.Distinct ↔ ∀ d ∈ last, d.Distinct) (s : Step) :
    (c.apply s).Distinct ↔ ∀ d ∈ s.loaded last, d.Distinct := by
  cases s with
  | new => simp [apply, Step.loaded, distinct_empty]
  | native param => simp [apply, Step.loaded, distinct_native]
  | insert template param => exact distinct_insert.trans h
  | collect pairs => simp [apply, Step.loaded, distinct_ofList]
  | load format text =>
    cases hd : format.load? text with
    | none => simpa [apply, Step.loaded, hd] using h
    | some d => simp [apply, Step.loaded, hd]

theorem distinct_run_iff (steps : List Step) :
    (run steps).Distinct ↔ ∀ d ∈ lastLoaded steps, d.Distinct := by
  suffices h : ∀ (c : MatchClause) (last : Option MatchClause),
      (c.Distinct ↔ ∀ d ∈ last, d.Distinct) →
      ((steps.foldl apply c).Distinct ↔ ∀ d ∈ steps.foldl Step.loaded last, d.Distinct) from
    h empty none (by simp [distinct_empty])
  induction steps with
  | nil => exact fun c last h => h
  | cons s steps ih => exact fun c last h => ih _ _ (distinct_apply h s)

/-- **Loading alone repeats templates.** After a run the templates are distinct iff those of the
clause were that it has loaded last, and iff each further insertion leaves one entry of its
template, with the inserted parameter. -/
theorem distinct_run (steps : List Step) :
    ((run steps).Distinct ↔ ∀ d ∈ lastLoaded steps, d.Distinct) ∧
    ((run steps).Distinct ↔ ∀ template param,
      (run (steps ++ [.insert template param])).ofTemplate template = [⟨template, param⟩]) := by
  refine ⟨distinct_run_iff steps, ?_⟩
  have hrun (template param : String) :
      run (steps ++ [.insert template param]) = (run steps).insert template param :=
    List.foldl_append
  rw [distinct_iff_ofTemplate]
  constructor
  · intro h template param
    rw [hrun, ofTemplate_insert, h template]
  · intro h template
    have h' := h template ""
    rw [hrun, ofTemplate_insert] at h'
    exact (List.cons.inj h').2

/-- The same template twice in each kind of text. An insertion after it leaves a second entry. -/
theorem distinct_run_repeated :
    ¬ (run [.load .json "[[\"a\",\"x\"],[\"a\",\"y\"]]"]).Distinct ∧
    ¬ (run [.load .yaml
      "- \x7btemplate: a, param: x\x7d\n- \x7btemplate: a, param: y\x7d"]).Distinct ∧
    ¬ (run [.load .jsonConfig "\x7b\"match_clause\":[[\"a\",\"x\"],[\"a\",\"y\"]]\x7d"]).Distinct ∧
    ¬ (run [.load .yamlConfig
      "match_clause:\n- \x7btemplate: a, param: x\x7d\n- \x7btemplate: a, param: y\x7d"]).Distinct ∧
    (run [.load .json "[[\"a\",\"x\"],[\"a\",\"y\"]]", .insert "a" "z"]).ofTemplate "a" =
      [⟨"a", "z"⟩, ⟨"a", "y"⟩] := by
  decide +kernel

end CypherFragments.MatchClause
