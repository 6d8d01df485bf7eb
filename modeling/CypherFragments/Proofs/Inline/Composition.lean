import CypherFragments.Proofs.Assembly
import CypherFragments.Proofs.Config.Valid
import CypherFragments.Proofs.Inline.Statement
import CypherFragments.Record.JsonRecord

/-!
# Inlining the parameters of a composed statement

The statement of a call whose tags, templates and labels are in order is plain
(`Compiler.exists_plain`), so that inlining its written parameters is composing it with literals
(`Compiler.inline_call`).
-/

set_option autoImplicit false

namespace CypherFragments

open Text Query

/-- A plain statement whose properties all have values: only a comparison can lack one. -/
theorem Fragment.inline_query {f : Fragment} {s : Statement} (hs : f.statement = some s)
    (hp : s.Plain) (hb : ∀ b ∈ s.bindings, b.param ∈ f.params.keys) :
    inline f.query.text f.params =
      match s.matchParams.find? fun p => (f.params.get? p).isNone with
      | none => .ok (s.query.render f.params.literal)
      | some p => .error ⟨p⟩ := by
  have hq : f.query = s.query := by rw [query, hs]; rfl
  have hn : (s.bindings.map (·.param)).find? (fun p => (f.params.get? p).isNone) = none := by
    rw [List.find?_eq_none]
    intro p hp' hn
    obtain ⟨b, hb', rfl⟩ := List.mem_map.1 hp'
    obtain ⟨v, hv⟩ := (f.params.mem_keys_iff _).1 (hb b hb')
    rw [hv] at hn
    cases hn
  have hfind : s.query.slots.find? (fun p => (f.params.get? p).isNone) =
      s.matchParams.find? fun p => (f.params.get? p).isNone := by
    rw [s.slots_query, List.find?_append, hn, Option.or_none]
  rw [hq, inline, ofString, fill_scan_text _ hp.legible, fill_eq]
  cases h : s.matchParams.find? fun p => (f.params.get? p).isNone with
  | none => simp only [hfind.trans h]
  | some p => simp only [hfind.trans h]

/-! ## Plain calls -/

/-- An expanded template has no characters but those of the variable and its own. -/
theorem MatchEntry.not_mem_expand {x : Char} {v : List Char} (hv : x ∉ v) (t : List Char)
    (ht : x ∉ t) : x ∉ expand v t := by
  fun_induction expand v t with
  | case1 r ih =>
    simp only [List.mem_cons, not_or] at ht
    rw [List.mem_append, not_or]
    exact ⟨hv, ih ht.2.2.2⟩
  | case2 c r _ ih =>
    rw [List.mem_cons, not_or] at ht ⊢
    exact ⟨ht.1, ih ht.2⟩
  | case3 => exact ht

/-- No field of the record has the tag that the entry compares with. -/
def MatchEntry.Unbacked (m : MatchEntry) (r : Record) (family : String) : Prop :=
  ∃ fields, r.boundFields family = .ok fields ∧ ∀ g ∈ fields, g.tag ≠ m.param

/-- What a call names for one of its records: tags and parameters that are names, a label and
templates without a `$`. -/
structure Use.Plain (family : String) (u : Use) : Prop where
  tags : ∀ e, u.record.extract family u.excludes = .ok e → ∀ f ∈ e.fields, IsName f.tag
  label : ∀ e, u.record.extract family u.excludes = .ok e →
    ∀ l ∈ u.label?, Dollarless (l.resolve e.entityName)
  entries : ∀ m ∈ u.clause.entries, IsName m.param ∧ Dollarless m.template

namespace Assembler

/-- Neither the variable nor the prefix disturbs the names it goes with. -/
structure Plain (a : Assembler) : Prop where
  var : Dollarless a.var
  nameChars : ∀ c ∈ a.paramPrefix.toList, isNameChar c = true

variable {a : Assembler} {clause : MatchClause} {e : Extract}

theorem Plain.conditions (ha : a.Plain)
    (h : ∀ m ∈ clause.entries, IsName m.param ∧ Dollarless m.template) :
    ∀ c ∈ clause.conditions a.var a.paramPrefix, c.Plain := by
  intro c hc
  obtain ⟨m, hm, rfl⟩ := List.mem_map.1 hc
  refine ⟨?_, (h m hm).1.prefixed ha.nameChars⟩
  show '$' ∉ (String.ofList _).toList
  rw [String.toList_ofList]
  exact MatchEntry.not_mem_expand ha.var _ (h m hm).2

theorem Plain.bindings (ha : a.Plain) (h : ∀ f ∈ e.fields, IsName f.tag) :
    ∀ b ∈ (a.matched clause e).bindings, b.Plain := by
  intro b hb
  obtain ⟨f, hf, rfl⟩ := List.mem_map.1 hb
  exact ⟨dollarless_of_nameChars (h f hf).2, (h f hf).prefixed ha.nameChars⟩

/-- Every property that is written has a value. -/
theorem mem_keys_of_bindings : ∀ b ∈ (a.matched clause e).bindings,
    b.param ∈ (a.matched clause e).params.keys := by
  intro b hb
  obtain ⟨f, hf, rfl⟩ := List.mem_map.1 hb
  exact mem_keys_matched.2 (.inl ⟨f, hf, rfl⟩)

end Assembler

/-! ## The statements of operations -/

theorem NodeOperation.statement_plain {op : NodeOperation} {f : Fragment} (hv : Dollarless f.var)
    (hl : ∀ l ∈ op.label?, Dollarless (l.resolve f.entityName)) (hc : ∀ c ∈ f.conditions, c.Plain)
    (hb : ∀ b ∈ f.bindings, b.Plain) : (op.statement f).Plain := by
  cases op with
  | withProperties label => exact ⟨⟨hv, hl label rfl⟩, hb⟩
  | find label clause returned => exact ⟨⟨hv, hl label rfl⟩, hc⟩
  | create label returned excludes => exact ⟨⟨hv, hl label rfl⟩, hb⟩
  | update label clause returned excludes => exact ⟨⟨⟨hv, hl label rfl⟩, hc⟩, hb⟩
  | delete clause detach => exact ⟨hv, hc⟩

theorem NodeOperation.bindings_statement {op : NodeOperation} {f : Fragment} :
    ∀ b ∈ (op.statement f).bindings, b ∈ f.bindings := by
  intro b hb
  cases op with
  | withProperties | create | update => exact hb
  | find | delete => cases hb

theorem EdgeOperation.statement_plain {op : EdgeOperation} {spec : EdgeSpec} {f s t : Fragment}
    (hs : (s.nodeMatch spec.startNode.label).Plain) (ht : (t.nodeMatch spec.endNode.label).Plain)
    (he : (f.pattern spec.label).Plain) (hc : ∀ c ∈ f.conditions, c.Plain)
    (hb : ∀ b ∈ f.bindings, b.Plain) : (op.statement spec f s t).Plain := by
  cases op with
  | create => exact ⟨hs, ht, he, hb⟩
  | update clause => exact ⟨hs, ht, he, hc, hb⟩

theorem EdgeOperation.bindings_statement {op : EdgeOperation} {spec : EdgeSpec}
    {f s t : Fragment} : (op.statement spec f s t).bindings = f.bindings := by
  cases op <;> rfl

namespace Compiler

variable (c : Compiler)

theorem dollarless_setting {s : Setting} (hs : s ≠ .paramPrefix) :
    Dollarless (c.config.get s) :=
  dollarless_of_nameChars
    (isNameChar_of_identifier ((Config.violations_eq_nil.1 c.valid).1.1 s hs))

theorem assembler_plain : c.assembler.Plain where
  var := c.dollarless_setting (s := .var) (by decide)
  nameChars x hx := isNameChar_of_ascii ((Config.violations_eq_nil.1 c.valid).1.2 x hx)

theorem startAssembler_plain : c.edges.startAssembler.Plain where
  var := c.dollarless_setting (s := .startVar) (by decide)
  nameChars := List.all_eq_true.1 (show startPrefix.toList.all isNameChar = true by decide)

theorem endAssembler_plain : c.edges.endAssembler.Plain where
  var := c.dollarless_setting (s := .endVar) (by decide)
  nameChars := List.all_eq_true.1 (show endPrefix.toList.all isNameChar = true by decide)

variable {c}

theorem exists_plain_node {m : NodeMethod} {r : Record} {f : Fragment}
    (hf : c.callNode r m = .ok f)
    (hp : (m.operation.use c.config.clause r).Plain c.config.tagName) :
    ∃ s, f.statement = some s ∧ s.Plain ∧ ∀ b ∈ s.bindings, b.param ∈ f.params.keys := by
  rw [callNode_eq] at hf
  obtain ⟨e, he, rfl⟩ := (NodeComposer.perform_ok _ _ _).1 hf
  refine ⟨_, rfl, ?_, fun b hb => ?_⟩
  · exact NodeOperation.statement_plain c.assembler_plain.var (hp.label e he)
      (c.assembler_plain.conditions hp.entries) (c.assembler_plain.bindings (hp.tags e he))
  · exact Assembler.mem_keys_of_bindings b (NodeOperation.bindings_statement b hb)

theorem exists_plain_edge {m : EdgeMethod} {spec : EdgeSpec} {f : Fragment}
    (hf : c.callEdge spec m = .ok f)
    (hp : ∀ u ∈ m.operation.uses c.config.clause (m.spec spec), u.Plain c.config.tagName) :
    ∃ s, f.statement = some s ∧ s.Plain ∧ ∀ b ∈ s.bindings, b.param ∈ f.params.keys := by
  rw [callEdge_eq] at hf
  obtain ⟨es, et, er, hs, ht, hr, rfl⟩ := (EdgeComposer.perform_ok _ _ _).1 hf
  have ps := hp _ (.head _)
  have pt := hp _ (.tail _ (.head _))
  have pr := hp _ (.tail _ (.tail _ (.head _)))
  refine ⟨_, rfl, ?_, fun b hb => ?_⟩
  · have ha := c.assembler_plain
    have hsa := c.startAssembler_plain
    have hta := c.endAssembler_plain
    exact EdgeOperation.statement_plain
      ⟨⟨hsa.var, ps.label es hs _ rfl⟩, hsa.conditions ps.entries⟩
      ⟨⟨hta.var, pt.label et ht _ rfl⟩, hta.conditions pt.entries⟩
      ⟨ha.var, pr.label er hr _ rfl⟩ (ha.conditions pr.entries) (ha.bindings (pr.tags er hr))
  · rw [EdgeOperation.bindings_statement] at hb
    refine (Table.mem_keys_merge _ _ _).2 (.inl ((Table.mem_keys_merge _ _ _).2 (.inl ?_)))
    exact Assembler.mem_keys_of_bindings b hb

theorem exists_plain {call : Call} {f : Fragment} (hf : c.call call = .ok f)
    (hp : ∀ u ∈ call.uses c.config.clause, u.Plain c.config.tagName) :
    ∃ s, f.statement = some s ∧ s.Plain ∧ ∀ b ∈ s.bindings, b.param ∈ f.params.keys := by
  cases call with
  | node m r => exact exists_plain_node hf (hp _ (.head _))
  | edge m spec => exact exists_plain_edge hf hp

/-! ## Entries without a field -/

theorem matchParams_node (op : NodeOperation) (a : Assembler) (configured : MatchClause)
    (e : Extract) : (op.statement (a.matched (op.clause configured) e)).matchParams =
      (op.clause configured).entries.map fun m => a.paramPrefix ++ m.param := by
  cases op with
  | withProperties | create => rfl
  | find | update | delete => exact List.map_map

/-- A comparison of a node statement lacks its value iff no field carries the tag of its entry. -/
theorem unbound_iff_unbacked {m : NodeMethod} {r : Record} {f : Fragment} {s : Statement}
    (hf : c.callNode r m = .ok f) (hs : f.statement = some s) :
    (∃ p ∈ s.matchParams, p ∉ f.params.keys) ↔
      ∃ entry ∈ (m.operation.clause c.config.clause).entries,
        entry.Unbacked r c.config.tagName := by
  rw [callNode_eq] at hf
  obtain ⟨e, he, rfl⟩ := (NodeComposer.perform_ok _ _ _).1 hf
  obtain rfl := Option.some.inj hs
  obtain ⟨name, fields, hn, hl, -⟩ := Record.extract_ok.1 he
  have backed {entry : MatchEntry} (hm : entry ∈ (m.operation.clause c.config.clause).entries) :
      c.assembler.paramPrefix ++ entry.param ∈
          (c.assembler.matched (m.operation.clause c.config.clause) e).params.keys ↔
        ∃ g ∈ fields, g.tag = entry.param := by
    rw [Assembler.mem_keys_matched_entry hm]
    simp only [Record.mem_bound he hl]
  have hmp := matchParams_node m.operation c.nodes.assembler c.nodes.clause e
  constructor
  · rintro ⟨p, hp, hk⟩
    rw [hmp] at hp
    obtain ⟨entry, hm, rfl⟩ := List.mem_map.1 hp
    refine ⟨entry, hm, fields, hl, fun g hg ht => hk ((backed hm).2 ⟨g, hg, ht⟩)⟩
  · rintro ⟨entry, hm, fields', hl', ht⟩
    obtain rfl := Except.ok.inj (hl.symm.trans hl')
    refine ⟨c.assembler.paramPrefix ++ entry.param, ?_, fun hk => ?_⟩
    · exact hmp ▸ List.mem_map_of_mem hm
    · obtain ⟨g, hg, h⟩ := (backed hm).1 hk
      exact ht g hg h

/-- **Inlining commutes with composition.** The written parameters of a plain call are replaced by
the literals of their values, as if the statement had been composed with them. Only a comparison can
lack a value; the leftmost one is reported, and in a node statement it is one of an entry that no
field of the record backs. -/
theorem inline_call {call : Call} {f : Fragment} (hf : c.call call = .ok f)
    (hp : ∀ u ∈ call.uses c.config.clause, u.Plain c.config.tagName) :
    ∃ s, f.statement = some s ∧
      ((∃ t, inline f.query.text f.params = .ok t) ↔ ∀ p ∈ s.matchParams, p ∈ f.params.keys) ∧
      ((∀ p ∈ s.matchParams, p ∈ f.params.keys) →
        inline f.query.text f.params = .ok (s.query.render f.params.literal)) ∧
      (∀ p, s.matchParams.find? (fun p => decide (p ∉ f.params.keys)) = some p →
        inline f.query.text f.params = .error ⟨p⟩) ∧
      ∀ m r, call = .node m r →
        ((∃ e, inline f.query.text f.params = .error e) ↔
          ∃ entry ∈ (m.operation.clause c.config.clause).entries,
            entry.Unbacked r c.config.tagName) := by
  obtain ⟨s, hs, hplain, hb⟩ := exists_plain hf hp
  have hq := f.inline_query hs hplain hb
  have hnone (p : String) : (f.params.get? p).isNone = decide (p ∉ f.params.keys) := by
    rw [Bool.eq_iff_iff, decide_eq_true_iff, Option.isNone_iff_eq_none, Table.get?_eq_none_iff]
  simp only [hnone] at hq
  refine ⟨s, hs, ?_⟩
  cases hfind : s.matchParams.find? (fun p => decide (p ∉ f.params.keys)) with
  | none =>
    rw [hfind] at hq
    have hall : ∀ p ∈ s.matchParams, p ∈ f.params.keys := by
      simpa using List.find?_eq_none.1 hfind
    refine ⟨⟨fun _ => hall, fun _ => ⟨_, hq⟩⟩, fun _ => hq, fun _ h => (nomatch h), ?_⟩
    rintro m r rfl
    rw [← unbound_iff_unbacked hf hs, hq]
    exact ⟨fun ⟨_, h⟩ => (nomatch h), fun ⟨p, hp, hn⟩ => absurd (hall p hp) hn⟩
  | some p =>
    rw [hfind] at hq
    have hmem := List.mem_of_find?_eq_some hfind
    have hn : p ∉ f.params.keys := by simpa using List.find?_some hfind
    refine ⟨⟨fun ⟨t, h⟩ => ?_, fun h => absurd (h p hmem) hn⟩, fun h => absurd (h p hmem) hn, ?_,
      ?_⟩
    · rw [hq] at h
      cases h
    · intro p' h
      obtain rfl := Option.some.inj h
      exact hq
    · rintro m r rfl
      rw [← unbound_iff_unbacked hf hs]
      exact ⟨fun _ => ⟨p, hmem, hn⟩, fun _ => ⟨_, hq⟩⟩

/-- An excluded field with a `$` in its value is compared, and its literal is not read again. -/
theorem inline_call_update :
    ∃ f, (⟨.default, by decide⟩ : Compiler).call
        (.node (.update .entity false ["id"]) (JsonRecord.record
          ⟨"User", .object [("id", .string "$name"), ("name", .string "O'Brien")]⟩)) = .ok f ∧
      inline f.query.text f.params =
        .ok "MERGE (flava:User) WHERE id(flava) = '$name' SET flava.name = 'O\\'Brien'" := by
  have hf : (⟨.default, by decide⟩ : Compiler).call
      (.node (.update .entity false ["id"]) (JsonRecord.record
        ⟨"User", .object [("id", .string "$name"), ("name", .string "O'Brien")]⟩)) = .ok _ := rfl
  refine ⟨_, hf, ?_⟩
  obtain ⟨s, hs, -, h, -, -⟩ := inline_call hf (by
    intro u hu
    obtain rfl := List.mem_singleton.1 hu
    refine ⟨fun e he => ?_, fun e he => ?_, by decide⟩
    · obtain rfl := Except.ok.inj he
      decide
    · obtain rfl := Except.ok.inj he
      decide)
  obtain rfl := Option.some.inj hs
  rw [h (by decide)]
  decide

end Compiler

end CypherFragments
