import CypherFragments.Proofs.Config.File

/-!
# What a run of steps writes

A run leaves in each field what the last step has written that writes this field, and only what is
left has to be valid. So steps that write different fields can change places. On a command line the
last layers are the file, field by field, and the defaults.

* `Config.value?_environment`: the settings that an environment writes.
* `Config.applyAll_eq_written`: what a run leaves.
* `Config.apply_comm`, `Config.applyAll_swap`: one step past another, and in the middle of a run.
* `Invocation.layers_of_config`: the layers of an accepted command line, down to its file.
* `Config.build_written`: what is built from any start, and what a command line is configured with.
-/

set_option autoImplicit false

namespace CypherFragments

theorem fromUTF8?_eq_some_iff {bytes : ByteArray} {s : String} :
    String.fromUTF8? bytes = some s ↔ bytes = s.toUTF8 := by
  unfold String.fromUTF8?
  split
  · rename_i h
    rw [Option.some.injEq, ← String.toByteArray_inj]
    rfl
  · rename_i h
    refine iff_of_false (Option.some_ne_none _).symm ?_
    rintro rfl
    exact h s.isValidUTF8

theorem Except.eq_ok_of_toOption {ε α : Type} {x : Except ε α} {a : α}
    (h : x.toOption = some a) : x = .ok a := by
  cases x with
  | error e => cases h
  | ok b => exact congrArg _ (Option.some.inj h)

theorem eq_some_of_getD {α : Type} {o : Option α} {x y : α} (h : y = o.getD x) (hne : y ≠ x) :
    o = some y := by
  cases o with
  | none => exact absurd h hne
  | some z => exact congrArg some h.symm

theorem getD_getD_comm {α : Type} {a b : Option α} (h : a = none ∨ b = none) (x : α) :
    b.getD (a.getD x) = a.getD (b.getD x) := by
  rcases h with rfl | rfl
  · rfl
  · rfl

namespace Config

/-! ## One step -/

/-- A variable counts if it holds a text. -/
theorem value?_environment {env : Environment} {s : Setting} {value : String} :
    (Step.environment env).value? s = some value ↔
      env s.environmentName = some value.toUTF8 := by
  simp only [Step.value?, Environment.text?, Option.bind_eq_some_iff, fromUTF8?_eq_some_iff,
    exists_eq_right]

/-- No field is written by both steps. -/
structure Step.Apart (a b : Step) : Prop where
  settings : ∀ s, a.value? s = none ∨ b.value? s = none
  clause : a.clause? = none ∨ b.clause? = none

theorem apply_comm {a b : Step} (h : a.Apart b) (c : Config) :
    (c.apply a).apply b = (c.apply b).apply a := by
  refine ext_get (fun s => ?_) ?_
  · simp only [get_apply]
    exact getD_getD_comm (h.settings s) (c.get s)
  · simp only [clause_apply]
    exact getD_getD_comm h.clause c.clause

/-! ## A run of steps -/

/-- What the last step that writes the setting has written. -/
def lastValue? (steps : List Step) (s : Setting) : Option String :=
  steps.reverse.findSome? (·.value? s)

def lastClause? (steps : List Step) : Option MatchClause :=
  steps.reverse.findSome? (·.clause?)

/-- Each field as it was written last, or as it was in `c`. -/
def written (c : Config) (steps : List Step) : Config where
  tagName := (lastValue? steps .tagName).getD c.tagName
  var := (lastValue? steps .var).getD c.var
  startVar := (lastValue? steps .startVar).getD c.startVar
  endVar := (lastValue? steps .endVar).getD c.endVar
  paramPrefix := (lastValue? steps .paramPrefix).getD c.paramPrefix
  clause := (lastClause? steps).getD c.clause

theorem get_written (c : Config) (steps : List Step) (s : Setting) :
    (c.written steps).get s = (lastValue? steps s).getD (c.get s) := by
  cases s <;> rfl

theorem applyAll_eq_written (c : Config) (steps : List Step) :
    c.applyAll steps = c.written steps := by
  refine ext_get (fun s => ?_) (clause_applyAll steps c)
  rw [get_applyAll, get_written, lastValue?]

theorem applyAll_append (c : Config) (xs ys : List Step) :
    c.applyAll (xs ++ ys) = (c.applyAll xs).applyAll ys :=
  List.foldl_append

theorem applyAll_swap {a b : Step} (h : a.Apart b) (c : Config) (xs ys : List Step) :
    c.applyAll (xs ++ a :: b :: ys) = c.applyAll (xs ++ b :: a :: ys) := by
  rw [applyAll_append, applyAll_append]
  show (((c.applyAll xs).apply a).apply b).applyAll ys = _
  rw [apply_comm h]
  rfl

end Config

namespace Invocation

variable {i : Invocation} {w : World}

/-- Where every file holds the text, so does the configuration file. -/
theorem base?_ofFile (text : String) (vars : List (String × String))
    (h : i.configFile.isSome) : i.base? (.ofFile text vars) = Config.ofYaml? text := by
  obtain ⟨path, hp⟩ := Option.isSome_iff_exists.1 h
  have ht : Config.fileText (some text.toUTF8) = .ok text := by
    rw [Config.fileText, fromUTF8?_eq_some_iff.2 rfl]
  rw [base?, hp]
  show (Config.fileText (some text.toUTF8)).toOption.bind Config.ofYaml? = _
  rw [ht]
  rfl

/-- Valid layers over a valid file are accepted. -/
theorem config_ofFile {text : String} {vars : List (String × String)} {base : Config}
    (h : i.configFile.isSome) (hf : Config.ofYaml? text = some base) (hb : base.Rules)
    (hr : (i.layered (.ofFile text vars) base).Rules) :
    i.config (.ofFile text vars) = .ok (i.layered (.ofFile text vars) base) :=
  config_eq_ok.2 ⟨base, ⟨(base?_ofFile text vars h).trans hf, fun _ => hb⟩, hr, rfl⟩

/-- The layers that an accepted command line is made of. -/
theorem layers_of_config {c : Config} (h : i.config w = .ok c) :
    ∃ doc, i.document? w = some doc ∧
      (∀ s, c.get s =
        ((i.flag? s).or ((w.environment.text? s.environmentName).or (doc.setting? s))).getD
          (Config.default.get s)) ∧
      c.clause = if i.defaultMatch.isEmpty then doc.clause?.getD Config.default.clause
        else .ofList i.defaultMatch := by
  obtain ⟨base, ⟨hb, -⟩, -, rfl⟩ := config_eq_ok.1 h
  obtain ⟨doc, hd, hs⟩ := i.says_of_base? w hb
  refine ⟨doc, hd, fun s => ?_, ?_⟩
  · rw [get_layered, layer, hs.get, ← Option.getD_or, Option.or_assoc]
  · rw [← hs.clause]
    rfl

end Invocation

namespace Config

/-- **A run builds what was written last into each field**, if that is valid, and else reports it;
it does not matter what the run goes through. An environment writes the settings whose variables
hold a text and never the clause, and steps that write different fields can change places. A
command line that is accepted has the flags over the environment over the file over the defaults,
where the file says what stands in its document under the keys of the fields. -/
theorem build_written :
    (∀ (c : Config) (steps : List Step),
      ((c.written steps).Rules → c.build steps = .ok (c.written steps)) ∧
      (¬ (c.written steps).Rules →
        ∃ rows, c.build steps = .error (.invalid rows) ∧ (c.written steps).Reports rows)) ∧
    (∀ (c : Config) (xs ys : List Step), c.build (xs ++ ys) = (c.applyAll xs).build ys) ∧
    (∀ env : Environment, (Step.environment env).clause? = none ∧
      ∀ s value, (Step.environment env).value? s = some value ↔
        env s.environmentName = some value.toUTF8) ∧
    (∀ a b : Step, a.Apart b → ∀ (c : Config) (xs ys : List Step),
      c.build (xs ++ a :: b :: ys) = c.build (xs ++ b :: a :: ys)) ∧
    ∀ (i : Invocation) (w : World) (c : Config), i.config w = .ok c →
      ∃ doc, i.document? w = some doc ∧
        (∀ s, c.get s =
          ((i.flag? s).or ((w.environment.text? s.environmentName).or (doc.setting? s))).getD
            (default.get s)) ∧
        c.clause = if i.defaultMatch.isEmpty then doc.clause?.getD default.clause
          else .ofList i.defaultMatch := by
  refine ⟨fun c steps => ⟨fun h => ?_, fun h => ?_⟩, fun c xs ys => ?_,
    fun env => ⟨rfl, fun s value => value?_environment⟩, fun a b h c xs ys => ?_,
    fun i w c h => Invocation.layers_of_config h⟩
  · rw [build, applyAll_eq_written]
    exact validate_eq_ok.2 ⟨h, rfl⟩
  · rw [build, applyAll_eq_written]
    exact reports_of_validate h
  · rw [build, applyAll_append, build]
  · rw [build, applyAll_swap h, build]

/-- A file that says everything. -/
def layersFile : String :=
  "tag_name: a\nvariable: b\nstart_variable: c\nend_variable: d\nparam_prefix: e\n"
    ++ "match_clause:\n- template: x\n  param: p\n"

/-- An environment that overrides every setting. -/
def layersVars : List (String × String) :=
  [("GRAPHFRAG_TAG_NAME", "aa"), ("GRAPHFRAG_VARIABLE", "bb"), ("GRAPHFRAG_START_VARIABLE", "cc"),
    ("GRAPHFRAG_END_VARIABLE", "dd"), ("GRAPHFRAG_PARAM_PREFIX", "ee")]

/-- Flags that override every setting, and the clause. -/
def layersFlags : List String :=
  ["--tag-name", "aaa", "--variable", "bbb", "--start-variable", "ccc", "--end-variable", "ddd",
    "--param-prefix", "eee", "--default-match", "y=q"]

/-- A run from a bad name and over equal ends, one that ends with a bad name, and two steps that
change places. Then command lines, each with one layer more that says everything: the file, the
environment and the flags. -/
theorem build_written_layers :
    let start := { default with var := "1v" }
    let vars := [("GRAPHFRAG_VARIABLE", "e"), ("GRAPHFRAG_START_VARIABLE", "a")]
    let command := ["node", "--record", "\x7b\x7d", "--name", "User"]
    let i := Invocation.withFile []
    let j := { Invocation.withFile [(.tagName, "aaa"), (.var, "bbb"), (.startVar, "ccc"),
      (.endVar, "ddd"), (.paramPrefix, "eee")] with defaultMatch := [("y", "q")] }
    start.build [.set .startVar "end", .environment (World.ofFile "" vars).environment,
        .set .tagName "yaml"] = .ok ⟨"yaml", "e", "a", "end", "", .native "id"⟩ ∧
      (∃ rows, start.build [.clause .empty] = .error (.invalid rows)) ∧
      start.build [.clause .empty, .set .var "v"] = start.build [.set .var "v", .clause .empty] ∧
      CommandLine.read (["--config", "c.yaml"] ++ command) = .ok i ∧
      i.config (.ofFile layersFile []) = .ok ⟨"a", "b", "c", "d", "e", ⟨[⟨"x", "p"⟩]⟩⟩ ∧
      (∃ doc, i.document? (.ofFile layersFile []) = some doc ∧ doc.setting? .tagName = some "a" ∧
        doc.setting? .var = some "b" ∧ doc.setting? .startVar = some "c" ∧
        doc.setting? .endVar = some "d" ∧ doc.setting? .paramPrefix = some "e" ∧
        doc.clause? = some ⟨[⟨"x", "p"⟩]⟩) ∧
      i.config (.ofFile layersFile layersVars) =
        .ok ⟨"aa", "bb", "cc", "dd", "ee", ⟨[⟨"x", "p"⟩]⟩⟩ ∧
      CommandLine.read (["--config", "c.yaml"] ++ layersFlags ++ command) = .ok j ∧
      j.config (.ofFile layersFile layersVars) =
        .ok ⟨"aaa", "bbb", "ccc", "ddd", "eee", ⟨[⟨"y", "q"⟩]⟩⟩ := by
  intro start vars command i j
  obtain ⟨hb, -, -, hs, hi⟩ := build_written
  have hf : ofYaml? layersFile = some ⟨"a", "b", "c", "d", "e", ⟨[⟨"x", "p"⟩]⟩⟩ := by
    decide +kernel
  have hc (k : Invocation) (hk : k.configFile.isSome) (vars : List (String × String))
      (hr : (k.layered (.ofFile layersFile vars) _).Rules) :=
    Invocation.config_ofFile hk hf (by decide) hr
  have hfile : i.config (.ofFile layersFile []) = .ok ⟨"a", "b", "c", "d", "e", ⟨[⟨"x", "p"⟩]⟩⟩ :=
    (hc i rfl [] (by decide +kernel)).trans (congrArg _ (by decide +kernel))
  obtain ⟨rows, hr, -⟩ := (hb start [.clause .empty]).2 (by decide +kernel)
  refine ⟨?_, ⟨rows, hr⟩, hs _ _ ⟨fun s => .inl rfl, .inr rfl⟩ start [] [],
    Except.eq_ok_of_toOption (by decide +kernel), hfile, ?_, ?_,
    Except.eq_ok_of_toOption (by decide +kernel), ?_⟩
  · have h := (hb start [.set .startVar "end",
      .environment (World.ofFile "" vars).environment, .set .tagName "yaml"]).1 (by decide +kernel)
    exact h.trans (congrArg _ (by decide +kernel))
  · -- Nothing is said over the file, and what it says is not the default.
    obtain ⟨doc, hd, hget, hclause⟩ := hi i _ _ hfile
    exact ⟨doc, hd, eq_some_of_getD (hget .tagName) (by decide),
      eq_some_of_getD (hget .var) (by decide), eq_some_of_getD (hget .startVar) (by decide),
      eq_some_of_getD (hget .endVar) (by decide), eq_some_of_getD (hget .paramPrefix) (by decide),
      eq_some_of_getD hclause (by decide)⟩
  · exact (hc i rfl layersVars (by decide +kernel)).trans (congrArg _ (by decide +kernel))
  · exact (hc j rfl layersVars (by decide +kernel)).trans (congrArg _ (by decide +kernel))

end Config

end CypherFragments
