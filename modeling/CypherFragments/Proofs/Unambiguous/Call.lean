import CypherFragments.Proofs.Inline.Composition
import CypherFragments.Proofs.Unambiguous.Statement

/-!
# Unambiguous calls

Calls whose labels, tags and match parameters are names and whose templates have no blanks compose
spelled statements. Two of them that give the same query say the same (`Compiler.content_of_text`):
the `Content` of a call is what it asks for, without what does not show in its query, such as the
values of its fields and the fields it leaves out.
-/

set_option autoImplicit false

namespace CypherFragments

open Text Query

/-! ## What a call says -/

structure Content where
  /-- The labels that are written, those of a relationship after those of its ends. -/
  labels : List String := []
  /-- The expanded operands of each clause and what they are compared with. -/
  clauses : List (List (String × String)) := []
  /-- The tags of the fields that are written. -/
  tags : List String := []
  direction : Option Direction := none
  detach : Bool := false
  returned : Bool := false
  deriving DecidableEq, Repr

def MatchClause.comparisons (c : MatchClause) (var : String) : List (String × String) :=
  c.entries.map fun m => (m.operand var, m.param)

def Extract.tags (e : Extract) : List String := e.fields.map (·.tag)

def NodeOperation.content (configured : MatchClause) (var : String) (e : Extract) :
    NodeOperation → Content
  | withProperties label => { labels := [label.resolve e.entityName], tags := e.tags }
  | find label clause returned =>
    { labels := [label.resolve e.entityName]
      clauses := [(clause.resolve configured).comparisons var]
      returned }
  | create label returned _ => { labels := [label.resolve e.entityName], tags := e.tags, returned }
  | update label clause returned _ =>
    { labels := [label.resolve e.entityName]
      clauses := [(clause.resolve configured).comparisons var]
      tags := e.tags
      returned }
  | delete clause detach => { clauses := [(clause.resolve configured).comparisons var], detach }

/-- The relationship itself is compared with a clause only if it is updated. -/
def EdgeOperation.content (c : EdgeComposer) (spec : EdgeSpec) (es et er : Extract)
    (op : EdgeOperation) : Content where
  labels := [spec.startNode.label.resolve es.entityName, spec.endNode.label.resolve et.entityName,
    spec.label.resolve er.entityName]
  clauses := [(spec.startNode.clause.resolve c.clause).comparisons c.startVar,
    (spec.endNode.clause.resolve c.clause).comparisons c.endVar,
    (op.clause c.clause).comparisons c.assembler.var]
  tags := er.tags
  direction := some spec.direction
  returned := spec.returned

namespace Compiler

/-- What a call says, once its records have been extracted. -/
def content (c : Compiler) : Call → Except ExtractError Content
  | .node m r => do
    let e ← r.extract c.config.tagName m.operation.excludes
    return m.operation.content c.config.clause c.config.var e
  | .edge m spec => do
    let es ← (m.spec spec).startNode.record.extract c.config.tagName []
    let et ← (m.spec spec).endNode.record.extract c.config.tagName []
    let er ← (m.spec spec).edge.extract c.config.tagName (m.spec spec).excludes
    return m.operation.content c.edges (m.spec spec) es et er

end Compiler

/-! ## Spelled calls -/

theorem Text.spaceless_of_nameChars {s : String} (h : ∀ c ∈ s.toList, isNameChar c = true) :
    Spaceless s :=
  fun hm => absurd (h ' ' hm) (by decide)

/-- What a call names for one of its records: tags and parameters that are names, a label that is
one, and templates without blanks. -/
structure Use.Spelled (family : String) (u : Use) : Prop where
  tags : ∀ e, u.record.extract family u.excludes = .ok e → ∀ f ∈ e.fields, IsName f.tag
  label : ∀ e, u.record.extract family u.excludes = .ok e →
    ∀ l ∈ u.label?, IsName (l.resolve e.entityName)
  entries : ∀ m ∈ u.clause.entries, IsName m.param ∧ Spaceless m.template

theorem Use.Spelled.of_extract {family : String} {u : Use} {e : Extract}
    (he : u.record.extract family u.excludes = .ok e) (ht : ∀ f ∈ e.fields, IsName f.tag)
    (hl : ∀ l ∈ u.label?, IsName (l.resolve e.entityName))
    (hm : ∀ m ∈ u.clause.entries, IsName m.param ∧ Spaceless m.template) : u.Spelled family where
  tags e' he' := by
    obtain rfl := Except.ok.inj (he.symm.trans he')
    exact ht
  label e' he' := by
    obtain rfl := Except.ok.inj (he.symm.trans he')
    exact hl
  entries := hm

namespace Assembler

structure Spelled (a : Assembler) : Prop where
  var : IsName a.var
  nameChars : ∀ c ∈ a.paramPrefix.toList, isNameChar c = true

variable {a : Assembler} {clause clause' : MatchClause} {e e' : Extract}

theorem Spelled.conditions (ha : a.Spelled)
    (h : ∀ m ∈ clause.entries, IsName m.param ∧ Spaceless m.template) :
    ∀ c ∈ clause.conditions a.var a.paramPrefix, c.Spelled := by
  intro c hc
  obtain ⟨m, hm, rfl⟩ := List.mem_map.1 hc
  obtain ⟨hp, ht⟩ := h m hm
  refine ⟨?_, hp.prefixed ha.nameChars⟩
  show ' ' ∉ (String.ofList _).toList
  rw [String.toList_ofList]
  exact MatchEntry.not_mem_expand (spaceless_of_nameChars ha.var.2) _ ht

theorem Spelled.bindings (ha : a.Spelled) (h : ∀ f ∈ e.fields, IsName f.tag) :
    ∀ b ∈ (a.matched clause e).bindings, b.Spelled := by
  intro b hb
  obtain ⟨f, hf, rfl⟩ := List.mem_map.1 hb
  exact ⟨h f hf, (h f hf).prefixed ha.nameChars⟩

/-! ### What is said of a record -/

theorem label_of_pattern {l l' : Label}
    (h : (a.matched clause e).pattern l = (a.matched clause' e').pattern l') :
    l.resolve e.entityName = l'.resolve e'.entityName :=
  (Pattern.mk.inj h).2

/-- The same comparisons under one prefix are comparisons with the same parameters. -/
theorem comparisons_of_conditions
    (h : (a.matched clause e).conditions = (a.matched clause' e').conditions) :
    clause.comparisons a.var = clause'.comparisons a.var := by
  have hc (k : MatchClause) : k.conditions a.var a.paramPrefix =
      (k.comparisons a.var).map fun x => ⟨x.1, a.paramPrefix ++ x.2⟩ := by
    simp only [MatchClause.conditions, MatchClause.comparisons, List.map_map]
    rfl
  have hm : clause.conditions a.var a.paramPrefix = clause'.conditions a.var a.paramPrefix := h
  rw [hc, hc] at hm
  refine List.map_injective_iff.2 (fun x y hxy => ?_) hm
  obtain ⟨ho, hp⟩ := Condition.mk.inj hxy
  exact Prod.ext ho ((String.append_right_inj _).1 hp)

theorem said_of_nodeMatch {l l' : Label}
    (h : (a.matched clause e).nodeMatch l = (a.matched clause' e').nodeMatch l') :
    l.resolve e.entityName = l'.resolve e'.entityName ∧
      clause.comparisons a.var = clause'.comparisons a.var := by
  obtain ⟨hp, hc⟩ := NodeMatch.mk.inj h
  exact ⟨label_of_pattern hp, comparisons_of_conditions hc⟩

theorem tags_of_bindings
    (h : (a.matched clause e).bindings = (a.matched clause' e').bindings) : e.tags = e'.tags := by
  have ht := congrArg (List.map Binding.property) h
  simpa [matched, fragment, binding, Extract.tags, Function.comp_def] using ht

end Assembler

/-! ## Operations -/

theorem NodeOperation.statement_spelled {op : NodeOperation} {f : Fragment} (hv : IsName f.var)
    (hl : ∀ l ∈ op.label?, IsName (l.resolve f.entityName)) (hc : ∀ c ∈ f.conditions, c.Spelled)
    (hb : ∀ b ∈ f.bindings, b.Spelled) : (op.statement f).Spelled := by
  cases op with
  | withProperties label => exact ⟨⟨hv, hl label rfl⟩, hb⟩
  | find label clause returned => exact ⟨⟨hv, hl label rfl⟩, hc⟩
  | create label returned excludes => exact ⟨⟨hv, hl label rfl⟩, hb⟩
  | update label clause returned excludes => exact ⟨⟨⟨hv, hl label rfl⟩, hc⟩, hb⟩
  | delete clause detach => exact ⟨hv, hc⟩

theorem EdgeOperation.statement_spelled {op : EdgeOperation} {spec : EdgeSpec} {f s t : Fragment}
    (hs : (s.nodeMatch spec.startNode.label).Spelled)
    (ht : (t.nodeMatch spec.endNode.label).Spelled) (he : (f.pattern spec.label).Spelled)
    (hc : ∀ c ∈ f.conditions, c.Spelled) (hb : ∀ b ∈ f.bindings, b.Spelled) :
    (op.statement spec f s t).Spelled := by
  cases op with
  | create => exact ⟨⟨hs, ht⟩, he, hb⟩
  | update clause => exact ⟨⟨hs, ht⟩, he, hc, hb⟩

/-- Node operations that make the same statement say the same. -/
theorem NodeOperation.content_of_statement {a : Assembler} {configured : MatchClause}
    {op op' : NodeOperation} {e e' : Extract}
    (h : op.statement (a.matched (op.clause configured) e) =
      op'.statement (a.matched (op'.clause configured) e')) :
    op.content configured a.var e = op'.content configured a.var e' := by
  cases op with
  | withProperties label =>
    cases op' with
    | withProperties label' =>
      obtain ⟨hp, hb⟩ := Statement.nodePattern.inj h
      rw [content, content, Assembler.label_of_pattern hp, Assembler.tags_of_bindings hb]
    | _ => cases h
  | find label clause returned =>
    cases op' with
    | find label' clause' returned' =>
      obtain ⟨hn, rfl⟩ := Statement.matchNode.inj h
      obtain ⟨hl, hc⟩ := Assembler.said_of_nodeMatch hn
      rw [NodeOperation.clause, NodeOperation.clause] at hc
      rw [content, content, hl, hc]
    | _ => cases h
  | create label returned excludes =>
    cases op' with
    | create label' returned' excludes' =>
      obtain ⟨hp, hb, rfl⟩ := Statement.createNode.inj h
      rw [content, content, Assembler.label_of_pattern hp, Assembler.tags_of_bindings hb]
    | _ => cases h
  | update label clause returned excludes =>
    cases op' with
    | update label' clause' returned' excludes' =>
      obtain ⟨hn, hb, rfl⟩ := Statement.updateNode.inj h
      obtain ⟨hl, hc⟩ := Assembler.said_of_nodeMatch hn
      rw [NodeOperation.clause, NodeOperation.clause] at hc
      rw [content, content, hl, hc, Assembler.tags_of_bindings hb]
    | _ => cases h
  | delete clause detach =>
    cases op' with
    | delete clause' detach' =>
      obtain ⟨-, hc, rfl⟩ := Statement.deleteNode.inj h
      have hk := Assembler.comparisons_of_conditions hc
      rw [NodeOperation.clause, NodeOperation.clause] at hk
      rw [content, content, hk]
    | _ => cases h

namespace EdgeOperation

variable {c : EdgeComposer} {op op' : EdgeOperation} {spec spec' : EdgeSpec}
  {es es' et et' er er' : Extract}

/-- What a relationship operation says is said by the parts of its statement. -/
theorem content_congr
    (hends : Ends.mk ((c.startMatched spec es).nodeMatch spec.startNode.label)
        ((c.endMatched spec et).nodeMatch spec.endNode.label) =
      ⟨(c.startMatched spec' es').nodeMatch spec'.startNode.label,
        (c.endMatched spec' et').nodeMatch spec'.endNode.label⟩)
    (hp : (c.edgeMatched op er).pattern spec.label = (c.edgeMatched op' er').pattern spec'.label)
    (hc : (op.clause c.clause).comparisons c.assembler.var =
      (op'.clause c.clause).comparisons c.assembler.var)
    (hb : (c.edgeMatched op er).bindings = (c.edgeMatched op' er').bindings)
    (hd : spec.direction = spec'.direction) (hr : spec.returned = spec'.returned) :
    op.content c spec es et er = op'.content c spec' es' et' er' := by
  obtain ⟨hs, ht⟩ := Ends.mk.inj hends
  obtain ⟨hls, hcs⟩ := Assembler.said_of_nodeMatch hs
  obtain ⟨hlt, hct⟩ := Assembler.said_of_nodeMatch ht
  have hcs' : (spec.startNode.clause.resolve c.clause).comparisons c.startVar =
    (spec'.startNode.clause.resolve c.clause).comparisons c.startVar := hcs
  have hct' : (spec.endNode.clause.resolve c.clause).comparisons c.endVar =
    (spec'.endNode.clause.resolve c.clause).comparisons c.endVar := hct
  rw [content, content, hls, hlt, Assembler.label_of_pattern hp, hcs', hct', hc,
    Assembler.tags_of_bindings hb, hd, hr]

/-- Relationship operations that make the same statement say the same. -/
theorem content_of_statement
    (h : op.statement spec (c.edgeMatched op er) (c.startMatched spec es) (c.endMatched spec et) =
      op'.statement spec' (c.edgeMatched op' er') (c.startMatched spec' es')
        (c.endMatched spec' et')) :
    op.content c spec es et er = op'.content c spec' es' et' er' := by
  cases op with
  | create =>
    cases op' with
    | create =>
      obtain ⟨hends, hp, hd, hb, hr⟩ := Statement.createEdge.inj h
      exact content_congr hends hp rfl hb hd hr
    | update choice' => cases h
  | update choice =>
    cases op' with
    | create => cases h
    | update choice' =>
      obtain ⟨hends, hp, hd, hc, hb, hr⟩ := Statement.updateEdge.inj h
      exact content_congr hends hp (Assembler.comparisons_of_conditions hc) hb hd hr

end EdgeOperation

theorem NodeOperation.statement_ne_edge {op : NodeOperation} {f : Fragment} {op' : EdgeOperation}
    {spec : EdgeSpec} {r s t : Fragment} : op.statement f ≠ op'.statement spec r s t := by
  cases op <;> cases op' <;> exact nofun

/-! ## Calls -/

namespace Compiler

variable {c : Compiler}

theorem isName_setting {s : Setting} (hs : s ≠ .paramPrefix) : IsName (c.config.get s) := by
  have hi := (Config.violations_eq_nil.1 c.valid).1.1 s hs
  refine ⟨fun h => ?_, isNameChar_of_identifier hi⟩
  rw [h] at hi
  cases hi

variable (c)

theorem assembler_spelled : c.assembler.Spelled where
  var := c.isName_setting (s := .var) (by decide)
  nameChars := c.assembler_plain.nameChars

theorem startAssembler_spelled : c.edges.startAssembler.Spelled where
  var := c.isName_setting (s := .startVar) (by decide)
  nameChars := c.startAssembler_plain.nameChars

theorem endAssembler_spelled : c.edges.endAssembler.Spelled where
  var := c.isName_setting (s := .endVar) (by decide)
  nameChars := c.endAssembler_plain.nameChars

variable {c}

/-- The statement of a node operation, and that it is spelled. -/
theorem exists_spelled_node {m : NodeMethod} {r : Record} {f : Fragment}
    (hf : c.callNode r m = .ok f)
    (hp : (m.operation.use c.config.clause r).Spelled c.config.tagName) :
    ∃ e, c.content (.node m r) = .ok (m.operation.content c.config.clause c.config.var e) ∧
      f.statement = some (m.operation.statement
        (c.assembler.matched (m.operation.clause c.config.clause) e)) ∧
      (m.operation.statement
        (c.assembler.matched (m.operation.clause c.config.clause) e)).Spelled := by
  rw [callNode_eq] at hf
  obtain ⟨e, he, rfl⟩ := (NodeComposer.perform_ok _ _ _).1 hf
  have he' : r.extract c.config.tagName m.operation.excludes = .ok e := he
  refine ⟨e, ?_, rfl, ?_⟩
  · rw [content, he']
    rfl
  · exact NodeOperation.statement_spelled c.assembler_spelled.var (hp.label e he)
      (c.assembler_spelled.conditions hp.entries) (c.assembler_spelled.bindings (hp.tags e he))

/-- The statement of a relationship operation, and that it is spelled. -/
theorem exists_spelled_edge {m : EdgeMethod} {spec : EdgeSpec} {f : Fragment}
    (hf : c.callEdge spec m = .ok f)
    (hp : ∀ u ∈ m.operation.uses c.config.clause (m.spec spec), u.Spelled c.config.tagName) :
    ∃ es et er,
      c.content (.edge m spec) = .ok (m.operation.content c.edges (m.spec spec) es et er) ∧
      f.statement = some (m.operation.statement (m.spec spec) (c.edges.edgeMatched m.operation er)
        (c.edges.startMatched (m.spec spec) es) (c.edges.endMatched (m.spec spec) et)) ∧
      (m.operation.statement (m.spec spec) (c.edges.edgeMatched m.operation er)
        (c.edges.startMatched (m.spec spec) es)
        (c.edges.endMatched (m.spec spec) et)).Spelled := by
  rw [callEdge_eq] at hf
  obtain ⟨es, et, er, hs, ht, hr, rfl⟩ := (EdgeComposer.perform_ok _ _ _).1 hf
  have ps := hp _ (.head _)
  have pt := hp _ (.tail _ (.head _))
  have pr := hp _ (.tail _ (.tail _ (.head _)))
  refine ⟨es, et, er, ?_, rfl, ?_⟩
  · have hs' : (m.spec spec).startNode.record.extract c.config.tagName [] = .ok es := hs
    have ht' : (m.spec spec).endNode.record.extract c.config.tagName [] = .ok et := ht
    have hr' : (m.spec spec).edge.extract c.config.tagName (m.spec spec).excludes = .ok er := hr
    rw [content, hs', ht', hr']
    rfl
  · have ha := c.assembler_spelled
    have hsa := c.startAssembler_spelled
    have hta := c.endAssembler_spelled
    exact EdgeOperation.statement_spelled
      ⟨⟨hsa.var, ps.label es hs _ rfl⟩, hsa.conditions ps.entries⟩
      ⟨⟨hta.var, pt.label et ht _ rfl⟩, hta.conditions pt.entries⟩
      ⟨ha.var, pr.label er hr _ rfl⟩ (ha.conditions pr.entries) (ha.bindings (pr.tags er hr))

theorem eq_of_text {f f' : Fragment} {s s' : Statement} (hf : f.statement = some s)
    (hf' : f'.statement = some s') (hs : s.Spelled) (hs' : s'.Spelled)
    (h : f.query.text = f'.query.text) : s = s' := by
  rw [Fragment.query, Fragment.query, hf, hf'] at h
  exact Statement.text_injective hs hs' h

/-- **Queries are unambiguous.** Two calls of one compiler that compose the same query text say the
same. -/
theorem content_of_text {call call' : Call} {f f' : Fragment} (hf : c.call call = .ok f)
    (hf' : c.call call' = .ok f')
    (hp : ∀ u ∈ call.uses c.config.clause, u.Spelled c.config.tagName)
    (hp' : ∀ u ∈ call'.uses c.config.clause, u.Spelled c.config.tagName)
    (h : f.query.text = f'.query.text) :
    ∃ k, c.content call = .ok k ∧ c.content call' = .ok k := by
  cases call with
  | node m r =>
    obtain ⟨e, hk, hs, hspelled⟩ := exists_spelled_node hf (hp _ (.head _))
    cases call' with
    | node m' r' =>
      obtain ⟨e', hk', hs', hspelled'⟩ := exists_spelled_node hf' (hp' _ (.head _))
      have heq := eq_of_text hs hs' hspelled hspelled' h
      have hcontent := NodeOperation.content_of_statement heq
      exact ⟨_, hk, hk'.trans (congrArg Except.ok hcontent.symm)⟩
    | edge m' spec' =>
      obtain ⟨es', et', er', -, hs', hspelled'⟩ := exists_spelled_edge hf' hp'
      have heq := eq_of_text hs hs' hspelled hspelled' h
      exact absurd heq NodeOperation.statement_ne_edge
  | edge m spec =>
    obtain ⟨es, et, er, hk, hs, hspelled⟩ := exists_spelled_edge hf hp
    cases call' with
    | node m' r' =>
      obtain ⟨e', -, hs', hspelled'⟩ := exists_spelled_node hf' (hp' _ (.head _))
      have heq := eq_of_text hs hs' hspelled hspelled' h
      exact absurd heq.symm NodeOperation.statement_ne_edge
    | edge m' spec' =>
      obtain ⟨es', et', er', hk', hs', hspelled'⟩ := exists_spelled_edge hf' hp'
      have heq := eq_of_text hs hs' hspelled hspelled' h
      have hcontent := EdgeOperation.content_of_statement heq
      exact ⟨_, hk, hk'.trans (congrArg Except.ok hcontent.symm)⟩

/-- An update by the configured clause that leaves out the identifier, and an update of another
record by a clause of its own, compose the same query, so they say the same. -/
theorem content_of_text_update :
    (⟨.default, by decide⟩ : Compiler).content
        (.node (.updateBy (.named "User") (.native "id") true []) (JsonRecord.record
          ⟨"Person", .object [("name", .string "Ada")]⟩)) =
      .ok { labels := ["User"], clauses := [[("id(flava)", "id")]], tags := ["name"],
            returned := true } := by
  have hf : (⟨.default, by decide⟩ : Compiler).call
      (.node (.update .entity true ["id"]) (JsonRecord.record
        ⟨"User", .object [("id", .string "u1"), ("name", .string "Grace")]⟩)) = .ok _ := rfl
  have hf' : (⟨.default, by decide⟩ : Compiler).call
      (.node (.updateBy (.named "User") (.native "id") true []) (JsonRecord.record
        ⟨"Person", .object [("name", .string "Ada")]⟩)) = .ok _ := rfl
  have hp {u v : Use} (hv : v.Spelled "json") (hu : u ∈ [v]) : u.Spelled "json" := by
    obtain rfl := List.mem_singleton.1 hu
    exact hv
  obtain ⟨k, hk, hk'⟩ := content_of_text hf hf'
    (fun _ => hp (.of_extract rfl (by decide) (by decide) (by decide)))
    (fun _ => hp (.of_extract rfl (by decide) (by decide) (by decide))) (by decide)
  obtain rfl := Except.ok.inj hk
  exact hk'

end Compiler

end CypherFragments
