import CypherFragments.Config.Yaml
import CypherFragments.Proofs.Config.Layered
import CypherFragments.Proofs.Yaml.Reading

/-!
# What a configuration file says

A file that is read gives each field what stands in its root under the field's key, and leaves the
fields that have no key there as in the defaults. What stands there is looked up in the document,
not in the draft that is filled entry by entry.

* `Document.setting?`, `Document.clause?`: what a document says of a configuration.
* `MatchEntry.Draft.addNode_cases`, `Config.Draft.addNode_cases`: all that one entry can do.
* `MatchClause.matchClause?_eq`, `Config.says_of_ofYaml?`: what is read is what is said.
* `Invocation.says_of_base?`: the file of a command line.
-/

set_option autoImplicit false

namespace CypherFragments

open Yaml (Node Document Reading)
open Yaml.Reading (gives_pure gives_liftM Keeps)

variable {doc : Document} {v : Node} {e : Node × Node}

/-! ## Clauses -/

/-- A mapping with a template and a parameter. -/
def Yaml.Document.matchEntry? (doc : Document) (v : Node) : Option MatchEntry := do
  let template ← (doc.field? v "template").bind doc.text?
  let param ← (doc.field? v "param").bind doc.text?
  return ⟨template, param⟩

/-- A sequence of such mappings. -/
def Yaml.Document.matchClause? (doc : Document) (v : Node) : Option MatchClause := do
  return ⟨← (← doc.items? v).mapM doc.matchEntry?⟩

namespace MatchEntry

/-- An entry fills in the template or the parameter, if that has not been read yet. -/
theorem Draft.addNode_cases {d d' : Draft} (h : (addNode d e).Gives doc d') :
    ∃ key, doc.text? e.1 = some key ∧
      (key = "template" ∧ d.template = none ∧
          (∃ s, doc.text? e.2 = some s ∧ d' = { d with template := some s }) ∨
        key = "param" ∧ d.param = none ∧
          (∃ s, doc.text? e.2 = some s ∧ d' = { d with param := some s }) ∨
        key ≠ "template" ∧ key ≠ "param" ∧ d' = d) := by
  unfold addNode at h
  obtain ⟨key, hk, h⟩ := h.bind
  refine ⟨key, hk.text, ?_⟩
  by_cases ht : key = "template"
  · rw [if_pos ht] at h
    obtain ⟨hd, s, hs, rfl⟩ := Reading.Gives.once h
    exact .inl ⟨ht, by simpa using hd, s, hs.text, rfl⟩
  rw [if_neg ht] at h
  by_cases hp : key = "param"
  · rw [if_pos hp] at h
    obtain ⟨hd, s, hs, rfl⟩ := Reading.Gives.once h
    exact .inr (.inl ⟨hp, by simpa using hd, s, hs.text, rfl⟩)
  · rw [if_neg hp] at h
    exact .inr (.inr ⟨ht, hp, gives_pure.1 h⟩)

theorem Draft.keeps_template :
    Keeps doc addNode Draft.template "template" doc.text? := by
  intro d e d' h
  obtain ⟨key, hk, ⟨hkey, hd, s, hs, rfl⟩ | ⟨rfl, -, s, -, rfl⟩ | ⟨hkey, -, rfl⟩⟩ :=
    addNode_cases h
  · exact ⟨key, hk, .inl ⟨hkey, hd, s, hs, rfl⟩⟩
  · exact ⟨_, hk, .inr ⟨by decide, rfl⟩⟩
  · exact ⟨key, hk, .inr ⟨hkey, rfl⟩⟩

theorem Draft.keeps_param : Keeps doc addNode Draft.param "param" doc.text? := by
  intro d e d' h
  obtain ⟨key, hk, ⟨rfl, -, s, -, rfl⟩ | ⟨hkey, hd, s, hs, rfl⟩ | ⟨-, hkey, rfl⟩⟩ :=
    addNode_cases h
  · exact ⟨_, hk, .inr ⟨by decide, rfl⟩⟩
  · exact ⟨key, hk, .inl ⟨hkey, hd, s, hs, rfl⟩⟩
  · exact ⟨key, hk, .inr ⟨hkey, rfl⟩⟩

theorem matchEntry?_eq {m : MatchEntry} (h : (ofNode v).Gives doc m) :
    doc.matchEntry? v = some m := by
  unfold ofNode at h
  obtain ⟨es, hes, h⟩ := h.bind
  obtain ⟨⟨template, param⟩, hd, h⟩ := h.bind
  -- Nothing has been read in front of the first entry, so the draft is what the entries say.
  have ht : template = _ := Draft.keeps_template.field hes hd rfl
  have hp : param = _ := Draft.keeps_param.field hes hd rfl
  have hm := gives_liftM.1 h
  rw [Document.matchEntry?, ← ht, ← hp]
  cases template with
  | none => cases hm
  | some template =>
    cases param with
    | none => cases hm
    | some param => exact hm

end MatchEntry

theorem MatchClause.matchClause?_eq {c : MatchClause} (h : (ofNode v).Gives doc c) :
    doc.matchClause? v = some c := by
  unfold ofNode at h
  obtain ⟨vs, hvs, h⟩ := h.bind
  obtain ⟨entries, hm, h⟩ := h.bind
  obtain rfl := gives_pure.1 h
  rw [Document.matchClause?, hvs.items, Option.bind_eq_bind, Option.bind_some,
    Reading.Gives.mapM (fun _ _ => MatchEntry.matchEntry?_eq) hm]
  rfl

/-! ## Configurations -/

theorem Setting.key_inj {s t : Setting} (h : s.key = t.key) : s = t := by
  have hs := ofKey?_key s
  rw [h, ofKey?_key] at hs
  exact (Option.some.inj hs).symm

theorem Setting.key_ne_clauseKey (s : Setting) : s.key ≠ Config.clauseKey := by
  cases s <;> decide

/-- The text that stands in the root under the key of the setting. -/
def Yaml.Document.setting? (doc : Document) (s : Setting) : Option String := do
  doc.text? (← doc.field? (← doc.root) s.key)

/-- The clause that stands in the root under its key. -/
def Yaml.Document.clause? (doc : Document) : Option MatchClause := do
  doc.matchClause? (← doc.field? (← doc.root) Config.clauseKey)

namespace Config

/-- What has been read of the setting. -/
def Draft.value? (d : Draft) (s : Setting) : Option String := d.settings.reverse.lookup s

theorem Draft.value?_add (d : Draft) (s t : Setting) (value : String) :
    (d.add s value).value? t = if s = t then some value else d.value? t := by
  rw [value?, add, List.reverse_append, List.reverse_singleton, List.singleton_append,
    List.lookup_cons]
  by_cases h : t = s
  · simp [h]
  · simp [beq_eq_false_iff_ne.2 h, Ne.symm h, value?]

theorem Draft.value?_eq_none {d : Draft} {s : Setting} (h : d.has s = false) :
    d.value? s = none := by
  rw [value?, List.lookup_eq_none_iff]
  intro p hp
  have hs := List.any_eq_false.1 h p (List.mem_reverse.1 hp)
  rw [bne_iff_ne]
  exact fun e => hs (beq_iff_eq.2 e.symm)

/-- What is not said is as in the defaults. -/
theorem Draft.get_config (d : Draft) (s : Setting) :
    d.config.get s = (d.value? s).getD (default.get s) := by
  rw [Draft.value?, ← get_setAll]
  cases s <;> rfl

/-- An entry fills in a setting or the clause, if that has not been read yet. -/
theorem Draft.addNode_cases {d d' : Draft} (h : (addNode d e).Gives doc d') :
    ∃ key, doc.text? e.1 = some key ∧
      ((∃ s : Setting, key = s.key ∧ d.has s = false ∧
          ∃ value, doc.text? e.2 = some value ∧ d' = d.add s value) ∨
        (∀ s : Setting, key ≠ s.key) ∧ key = clauseKey ∧ d.clause = none ∧
          (∃ c, doc.matchClause? e.2 = some c ∧ d' = d.addClause c) ∨
        (∀ s : Setting, key ≠ s.key) ∧ key ≠ clauseKey ∧ d' = d) := by
  unfold addNode at h
  obtain ⟨key, hk, h⟩ := h.bind
  refine ⟨key, hk.text, ?_⟩
  cases hs : Setting.ofKey? key with
  | some s =>
    rw [hs] at h
    obtain ⟨hd, value, hv, rfl⟩ := Reading.Gives.once h
    have he : s.key = key := by simpa using List.find?_some hs
    exact .inl ⟨s, he.symm, hd, value, hv.text, rfl⟩
  | none =>
    simp only [hs] at h
    have hn (s : Setting) : key ≠ s.key := by
      rintro rfl
      rw [Setting.ofKey?_key] at hs
      cases hs
    by_cases hc : key = clauseKey
    · rw [if_pos hc] at h
      obtain ⟨hd, c, hm, rfl⟩ := Reading.Gives.once h
      exact .inr (.inl ⟨hn, hc, by simpa using hd, c, MatchClause.matchClause?_eq hm, rfl⟩)
    · rw [if_neg hc] at h
      exact .inr (.inr ⟨hn, hc, gives_pure.1 h⟩)

theorem Draft.keeps_setting (s : Setting) :
    Keeps doc addNode (fun d => d.value? s) s.key doc.text? := by
  intro d e d' h
  obtain ⟨key, hk, ⟨t, rfl, hd, value, hv, rfl⟩ | ⟨hn, -, -, c, -, rfl⟩ | ⟨hn, -, rfl⟩⟩ :=
    addNode_cases h
  · by_cases he : t = s
    · subst he
      exact ⟨t.key, hk, .inl ⟨rfl, value?_eq_none hd, value, hv, by simp only [value?_add, if_true]⟩⟩
    · refine ⟨t.key, hk, .inr ⟨fun e => he (Setting.key_inj e), ?_⟩⟩
      simp only [value?_add, if_neg he]
  · exact ⟨key, hk, .inr ⟨hn s, rfl⟩⟩
  · exact ⟨key, hk, .inr ⟨hn s, rfl⟩⟩

theorem Draft.keeps_clause :
    Keeps doc addNode (fun d => d.clause) clauseKey doc.matchClause? := by
  intro d e d' h
  obtain ⟨key, hk, ⟨t, rfl, -, value, -, rfl⟩ | ⟨-, hc, hd, c, hm, rfl⟩ | ⟨-, hc, rfl⟩⟩ :=
    addNode_cases h
  · exact ⟨t.key, hk, .inr ⟨t.key_ne_clauseKey, rfl⟩⟩
  · exact ⟨key, hk, .inl ⟨hc, hd, c, hm, rfl⟩⟩
  · exact ⟨key, hk, .inr ⟨hc, rfl⟩⟩

end Config

/-- What the document says, over the defaults. -/
structure Yaml.Document.Says (doc : Document) (c : Config) : Prop where
  get : ∀ s, c.get s = (doc.setting? s).getD (Config.default.get s)
  clause : c.clause = doc.clause?.getD Config.default.clause

namespace Config

/-- A text is read as what its document says. -/
theorem says_of_ofYaml? {text : String} {c : Config} (h : ofYaml? text = some c) :
    ∃ doc, Document.read? text = some doc ∧ doc.Says c := by
  obtain ⟨doc, hd, h⟩ := Option.bind_eq_some_iff.1 h
  refine ⟨doc, hd, ?_⟩
  rcases Document.decode?_eq_some h with ⟨hr, rfl⟩ | ⟨v, hr, h⟩
  · exact ⟨fun s => by rw [Document.setting?, hr]; rfl, by rw [Document.clause?, hr]; rfl⟩
  · unfold ofNode at h
    obtain ⟨es, hes, h⟩ := h.bind
    obtain ⟨d, hf, h⟩ := h.bind
    obtain rfl := gives_pure.1 h
    refine ⟨fun s => ?_, ?_⟩
    · rw [Draft.get_config, (Draft.keeps_setting s).field hes hf rfl, Document.setting?, hr]
      rfl
    · have hc : d.clause = _ := Draft.keeps_clause.field hes hf rfl
      rw [Draft.config, hc, Document.clause?, hr]
      rfl

end Config

namespace Invocation

variable (i : Invocation) (w : World)

/-- The document of the configuration file. Without a file it is the empty one. -/
def document? : Option Document :=
  match i.configFile with
  | none => some ⟨none, []⟩
  | some path => (Config.fileText (w.files path)).toOption.bind Document.read?

theorem says_of_base? {base : Config} (h : i.base? w = some base) :
    ∃ doc, i.document? w = some doc ∧ doc.Says base := by
  unfold base? at h
  unfold document?
  cases hp : i.configFile with
  | none =>
    rw [hp] at h
    obtain rfl := Option.some.inj h
    exact ⟨_, rfl, fun s => rfl, rfl⟩
  | some path =>
    rw [hp] at h
    obtain ⟨text, ht, h⟩ := Option.bind_eq_some_iff.1 h
    obtain ⟨doc, hd, hs⟩ := Config.says_of_ofYaml? h
    exact ⟨doc, Option.bind_eq_some_iff.2 ⟨text, ht, hd⟩, hs⟩

end Invocation

end CypherFragments
