import CypherFragments.Proofs.Operation
import Mathlib.Data.List.Basic

/-!
# What a fragment does not depend on

A field without a value or a usable tag is irrelevant, and so is one left out by its tag unless the
clause compares with it. A record with its irrelevant fields deleted gives the same fragment
(`Assembler.assembleWithMatch_pruned`); so records that differ in irrelevant fields only cannot be
told apart by any operation (`noninterference`).
-/

set_option autoImplicit false

namespace CypherFragments

/-! ## Irrelevant fields -/

namespace TaggedField

/-- Nothing of the field can show in a fragment made with these excludes and this clause. -/
def Irrelevant (excludes : List String) (clause : MatchClause) (f : TaggedField) : Prop :=
  f.value.isNone ∨ Text.isBlank f.tag.toList ∨ f.tag = skipTag ∨
    (f.tag ∈ excludes ∧ ∀ m ∈ clause.entries, m.param ≠ f.tag)

instance (excludes : List String) (clause : MatchClause) :
    DecidablePred (Irrelevant excludes clause) :=
  fun _ => inferInstanceAs (Decidable (_ ∨ _))

variable {excludes : List String} {clause : MatchClause} {f : TaggedField} {g : BoundField}

theorem tag_of_bound? (h : f.bound? = some g) : g.tag = f.tag := by
  unfold bound? at h
  split at h
  · cases h
  · obtain ⟨v, -, rfl⟩ := Option.map_eq_some_iff.1 h
    rfl

/-- An irrelevant field that can be bound is left out, and the clause does not ask for it. -/
theorem Irrelevant.tag (hf : f.Irrelevant excludes clause) (h : f.bound? = some g) :
    g.tag ∈ excludes ∧ ∀ m ∈ clause.entries, m.param ≠ g.tag := by
  rw [tag_of_bound? h]
  unfold bound? at h
  split at h
  · cases h
  rename_i ht
  rw [Bool.or_eq_true, beq_iff_eq, not_or] at ht
  obtain ⟨v, hv, -⟩ := Option.map_eq_some_iff.1 h
  rcases hf with hf | hf | hf | hf
  · rw [hv] at hf
    cases hf
  · exact absurd hf ht.1
  · exact absurd hf ht.2
  · exact hf

end TaggedField

/-- The fields without the irrelevant ones. -/
def relevant (excludes : List String) (clause : MatchClause) (l : List TaggedField) :
    List TaggedField :=
  l.filter fun f => ¬ f.Irrelevant excludes clause

section
variable {excludes : List String} {clause : MatchClause}

/-- A choice among the bound fields that no irrelevant field meets sees the relevant ones only. -/
theorem filter_bound_relevant {p : BoundField → Bool}
    (hp : ∀ f g, TaggedField.Irrelevant excludes clause f → f.bound? = some g → p g = false)
    (l : List TaggedField) :
    ((relevant excludes clause l).filterMap TaggedField.bound?).filter p =
      (l.filterMap TaggedField.bound?).filter p := by
  rw [relevant, List.filterMap_filter, List.filter_filterMap, List.filter_filterMap]
  refine congrArg (l.filterMap ·) (funext fun f => ?_)
  by_cases hf : f.Irrelevant excludes clause
  · rw [if_neg (by simpa using hf)]
    cases hb : f.bound? with
    | none => rfl
    | some g => simp [Option.filter, hp f g hf hb]
  · rw [if_pos (by simpa using hf)]

/-- The written fields are relevant. -/
theorem written_relevant (l : List TaggedField) :
    ((relevant excludes clause l).filterMap TaggedField.bound?).filter
        (!excludes.contains ·.tag) =
      (l.filterMap TaggedField.bound?).filter (!excludes.contains ·.tag) :=
  filter_bound_relevant (fun f g hf hb => by simp [(hf.tag hb).1]) l

/-- The fields that an entry can be compared with are relevant, even those left out. -/
theorem find?_leftOut_relevant {m : MatchEntry} (hm : m ∈ clause.entries) (l : List TaggedField) :
    (((relevant excludes clause l).filterMap TaggedField.bound?).filter
        (excludes.contains ·.tag)).find? (·.tag == m.param) =
      ((l.filterMap TaggedField.bound?).filter (excludes.contains ·.tag)).find?
        (·.tag == m.param) := by
  rw [← List.head?_filter, ← List.head?_filter, List.filter_filter, List.filter_filter,
    filter_bound_relevant]
  intro f g hf hb
  rw [beq_false_of_ne ((hf.tag hb).2 m hm).symm, Bool.false_and]

end

/-! ## Assemblies -/

namespace Record

/-- The record without its irrelevant fields. -/
def pruned (excludes : List String) (clause : MatchClause) (r : Record) : Record :=
  { r with taggedFields := fun family => (r.taggedFields family).map (relevant excludes clause) }

/-- The records have the same name and, but for irrelevant ones, the same fields. -/
structure Alike (family : String) (excludes : List String) (clause : MatchClause)
    (r r' : Record) : Prop where
  entityName : r.entityName = r'.entityName
  taggedFields : (r.pruned excludes clause).taggedFields family =
    (r'.pruned excludes clause).taggedFields family

theorem Alike.extract_pruned {family : String} {excludes : List String} {clause : MatchClause}
    {r r' : Record} (h : r.Alike family excludes clause r') :
    (r.pruned excludes clause).extract family excludes =
      (r'.pruned excludes clause).extract family excludes := by
  have hn : (r.pruned excludes clause).entityName = (r'.pruned excludes clause).entityName :=
    h.entityName
  unfold extract boundFields
  rw [hn, h.taggedFields]

end Record

namespace Assembler

variable (a : Assembler) {excludes : List String} {clause : MatchClause} {r r' : Record}

/-- A fragment is made of the name, the written fields and what the entries are compared with. -/
theorem matched_congr {e e' : Extract} (hn : e.entityName = e'.entityName)
    (hf : e.fields = e'.fields)
    (hx : ∀ m ∈ clause.entries,
      e.excluded.find? (·.tag == m.param) = e'.excluded.find? (·.tag == m.param)) :
    a.matched clause e = a.matched clause e' := by
  have hm : a.matchParams e clause = a.matchParams e' clause := by
    unfold matchParams Extract.valueFor?
    refine List.filterMap_congr fun m h => ?_
    rw [List.find?_append, List.find?_append, hf, hx m h]
  unfold matched fragment fieldParams
  rw [hn, hf, hm]

/-- **Irrelevant fields can be deleted.** -/
theorem assembleWithMatch_pruned (excludes : List String) (clause : MatchClause) (r : Record) :
    a.assembleWithMatch (r.pruned excludes clause) excludes clause =
      a.assembleWithMatch r excludes clause := by
  rw [assembleWithMatch_eq, assembleWithMatch_eq]
  unfold Record.extract Record.boundFields Record.pruned
  rcases hn : r.entityName with e | name
  · rfl
  rcases hl : r.taggedFields a.tagName with e | l
  · simp only [hl]
    rfl
  · simp only [hl]
    exact congrArg Except.ok (a.matched_congr rfl (written_relevant l)
      fun m hm => find?_leftOut_relevant hm l)

theorem assembleWithMatch_alike (h : r.Alike a.tagName excludes clause r') :
    a.assembleWithMatch r excludes clause = a.assembleWithMatch r' excludes clause := by
  rw [← a.assembleWithMatch_pruned excludes clause r,
    ← a.assembleWithMatch_pruned excludes clause r', assembleWithMatch_eq, assembleWithMatch_eq,
    h.extract_pruned]

end Assembler

/-! ## Operations -/

theorem NodeComposer.perform_alike (c : NodeComposer) {op : NodeOperation} {r r' : Record}
    (h : r.Alike c.assembler.tagName op.excludes (op.clause c.clause) r') :
    c.perform r op = c.perform r' op := by
  rw [perform_eq, perform_eq, c.assembler.assembleWithMatch_alike h]

/-- The specification, for other records. -/
def EdgeSpec.withRecords (spec : EdgeSpec) (s t r : Record) : EdgeSpec :=
  { spec with
    startNode := { spec.startNode with record := s }
    endNode := { spec.endNode with record := t }
    edge := r }

theorem EdgeMethod.spec_withRecords (m : EdgeMethod) (spec : EdgeSpec) (s t r : Record) :
    m.spec (spec.withRecords s t r) = (m.spec spec).withRecords s t r := by
  cases m <;> rfl

/-- A relationship statement depends on its records through their assemblies. -/
theorem EdgeComposer.perform_withRecords (c : EdgeComposer) {op : EdgeOperation} {spec : EdgeSpec}
    {s s' t t' r r' : Record}
    (hs : c.startAssembler.assembleWithMatch s [] (spec.startNode.clause.resolve c.clause) =
      c.startAssembler.assembleWithMatch s' [] (spec.startNode.clause.resolve c.clause))
    (ht : c.endAssembler.assembleWithMatch t [] (spec.endNode.clause.resolve c.clause) =
      c.endAssembler.assembleWithMatch t' [] (spec.endNode.clause.resolve c.clause))
    (hr : c.assembler.assembleWithMatch r spec.excludes (op.clause c.clause) =
      c.assembler.assembleWithMatch r' spec.excludes (op.clause c.clause)) :
    c.perform (spec.withRecords s t r) op = c.perform (spec.withRecords s' t' r') op := by
  rw [perform_eq, perform_eq]
  simp only [EdgeSpec.withRecords, hs, ht, hr]
  cases op <;> rfl

theorem EdgeComposer.perform_alike (c : EdgeComposer) {op : EdgeOperation} {spec : EdgeSpec}
    {s s' t t' r r' : Record}
    (hs : s.Alike c.assembler.tagName [] (spec.startNode.clause.resolve c.clause) s')
    (ht : t.Alike c.assembler.tagName [] (spec.endNode.clause.resolve c.clause) t')
    (hr : r.Alike c.assembler.tagName spec.excludes (op.clause c.clause) r') :
    c.perform (spec.withRecords s t r) op = c.perform (spec.withRecords s' t' r') op :=
  c.perform_withRecords (c.startAssembler.assembleWithMatch_alike hs)
    (c.endAssembler.assembleWithMatch_alike ht) (c.assembler.assembleWithMatch_alike hr)

/-- **Excluded and skipped data does not show.** Records that differ in irrelevant fields only give
the same fragment, parameters and their order included, in each place of each operation. -/
theorem noninterference :
    (∀ (a : Assembler) (excludes : List String) (r r' : Record),
      r.Alike a.tagName excludes .empty r' → a.assemble r excludes = a.assemble r' excludes) ∧
    (∀ (a : Assembler) (excludes : List String) (clause : MatchClause) (r r' : Record),
      r.Alike a.tagName excludes clause r' →
        a.assembleWithMatch r excludes clause = a.assembleWithMatch r' excludes clause) ∧
    (∀ (c : NodeComposer) (op : NodeOperation) (r r' : Record),
      r.Alike c.assembler.tagName op.excludes (op.clause c.clause) r' →
        c.perform r op = c.perform r' op) ∧
    (∀ (c : EdgeComposer) (op : EdgeOperation) (spec : EdgeSpec) (s s' t t' r r' : Record),
      s.Alike c.assembler.tagName [] (spec.startNode.clause.resolve c.clause) s' →
      t.Alike c.assembler.tagName [] (spec.endNode.clause.resolve c.clause) t' →
      r.Alike c.assembler.tagName spec.excludes (op.clause c.clause) r' →
        c.perform (spec.withRecords s t r) op = c.perform (spec.withRecords s' t' r') op) ∧
    (∀ (c : Compiler) (m : NodeMethod) (r r' : Record),
      r.Alike c.config.tagName m.operation.excludes (m.operation.clause c.config.clause) r' →
        c.callNode r m = c.callNode r' m) ∧
    ∀ (c : Compiler) (m : EdgeMethod) (spec : EdgeSpec) (s s' t t' r r' : Record),
      s.Alike c.config.tagName [] ((m.spec spec).startNode.clause.resolve c.config.clause) s' →
      t.Alike c.config.tagName [] ((m.spec spec).endNode.clause.resolve c.config.clause) t' →
      r.Alike c.config.tagName (m.spec spec).excludes (m.operation.clause c.config.clause) r' →
        c.callEdge (spec.withRecords s t r) m = c.callEdge (spec.withRecords s' t' r') m := by
  refine ⟨fun a excludes r r' h => ?_, fun a excludes clause r r' h => ?_, fun c op r r' h => ?_,
    fun c op spec s s' t t' r r' hs ht hr => ?_, fun c m r r' h => ?_,
    fun c m spec s s' t t' r r' hs ht hr => ?_⟩
  · exact a.assembleWithMatch_alike h
  · exact a.assembleWithMatch_alike h
  · exact c.perform_alike h
  · exact c.perform_alike hs ht hr
  · rw [Compiler.callNode_eq, Compiler.callNode_eq]
    exact c.nodes.perform_alike h
  · rw [Compiler.callEdge_eq, Compiler.callEdge_eq, EdgeMethod.spec_withRecords,
      EdgeMethod.spec_withRecords]
    exact c.edges.perform_alike hs ht hr

/-- The left-out key is irrelevant, as are a field without a value and those of a blank tag and the
tag `-`; the left-out identifier is compared with, so it is not. -/
theorem noninterference_update :
    (⟨.default, by decide⟩ : Compiler).callNode
        ⟨.ok "User", fun _ => .ok
          [⟨"k", "key", some (.string "secret")⟩, ⟨"i", "id", some (.bool true)⟩,
            ⟨"n", "name", none⟩]⟩
        (.update .entity false ["id", "key"]) =
      (⟨.default, by decide⟩ : Compiler).callNode
        ⟨.ok "User", fun _ => .ok
          [⟨"i", "id", some (.bool true)⟩, ⟨"b", " ", some .null⟩, ⟨"s", "-", some .null⟩]⟩
        (.update .entity false ["id", "key"]) :=
  noninterference.2.2.2.2.1 _ _ _ _ ⟨rfl, rfl⟩

end CypherFragments
