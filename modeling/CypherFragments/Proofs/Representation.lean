import CypherFragments.Proofs.Assembly
import CypherFragments.Proofs.Noninterference
import CypherFragments.Record.JsonRecord
import CypherFragments.Record.Schema

/-!
# Records and objects

What a statement takes from a record is its entity name and the tags and values of the fields that
can be bound. A JSON object with these pairs stands for the record in each place of each operation.

* `JsonRecord.extract_ofPairs`: the extract of the object is that of the record, its fields named by
  their tags.
* `Assembler.matched_byTag`: no fragment shows the names of fields.
* `Schema.presents_record`: the pairs of a typed value, read off its schema.
* `Record.representation`: no operation tells the record from the object.
-/

set_option autoImplicit false

namespace CypherFragments

/-! ## Pairs -/

/-- The tag with the value, if there is a value and the tag is neither blank nor `-`. -/
def TaggedField.pair? (f : TaggedField) : Option (String × Json) :=
  if Text.isBlank f.tag.toList ∨ f.tag = skipTag then none else f.value.map (f.tag, ·)

/-- The record has this name and, under the family, these pairs, no two of one tag. -/
structure Record.Presents (r : Record) (family name : String) (pairs : List (String × Json)) :
    Prop where
  entityName : r.entityName = .ok name
  taggedFields : (r.taggedFields family).map (·.filterMap TaggedField.pair?) = .ok pairs
  distinct : (pairs.map (·.1)).Nodup

/-- The object that holds the pairs, written one after the other. -/
def JsonRecord.ofPairs (name : String) (pairs : List (String × Json)) : JsonRecord :=
  ⟨name, .object (Table.ofList pairs).entries⟩

/-! ## Names of fields -/

/-- The field, named by its tag. -/
def BoundField.byTag (f : BoundField) : BoundField := ⟨f.tag, f.tag, f.value⟩

/-- The extract with its fields named by their tags. -/
def Extract.byTag (e : Extract) : Extract :=
  ⟨e.entityName, e.fields.map BoundField.byTag, e.excluded.map BoundField.byTag⟩

theorem Extract.valueFor?_byTag (e : Extract) (tag : String) :
    e.byTag.valueFor? tag = e.valueFor? tag := by
  unfold valueFor? byTag
  rw [← List.map_append, List.find?_map, Option.map_map]
  rfl

theorem Assembler.matched_byTag (a : Assembler) (clause : MatchClause) (e : Extract) :
    a.matched clause e.byTag = a.matched clause e := by
  have hm : a.matchParams e.byTag clause = a.matchParams e clause := by
    simp only [matchParams, Extract.valueFor?_byTag]
  have hb : e.byTag.fields.map a.binding = e.fields.map a.binding := List.map_map
  have hp : a.fieldParams e.byTag = a.fieldParams e := congrArg Table.ofList List.map_map
  unfold matched fragment
  rw [hm, hb, hp]
  rfl

/-! ## The extract of the object -/

/-- A member of the object is bound as the field it comes from. -/
theorem TaggedField.bound?_pair (f : TaggedField) :
    (f.pair?.bind fun p => bound? ⟨p.1, p.1, some p.2⟩) = f.bound?.map BoundField.byTag := by
  unfold pair? bound?
  by_cases h : Text.isBlank f.tag.toList ∨ f.tag = skipTag
  · simp [h]
  · cases f.value with
    | none => simp
    | some v => simp [h, BoundField.byTag]

namespace JsonRecord

theorem bound_fields_pairs (l : List TaggedField) :
    (fields (l.filterMap TaggedField.pair?)).filterMap TaggedField.bound? =
      (l.filterMap TaggedField.bound?).map BoundField.byTag := by
  rw [fields, List.filterMap_map, List.filterMap_filterMap, List.map_filterMap]
  exact List.filterMap_congr fun f _ => f.bound?_pair

variable {r : Record} {family name : String} {pairs : List (String × Json)}

theorem boundFields_ofPairs (h : r.Presents family name pairs) (family' : String) :
    (ofPairs name pairs).record.boundFields family' =
      (r.boundFields family).map (·.map BoundField.byTag) := by
  have hm : (Table.ofList pairs).entries = pairs := Table.entries_ofList h.distinct
  obtain ⟨l, hl, hp⟩ := Except.map_eq_ok.1 h.taggedFields
  unfold Record.boundFields record ofPairs
  rw [hl]
  dsimp only
  rw [hm, hp]
  exact congrArg Except.ok (bound_fields_pairs l)

theorem filter_byTag (p : String → Bool) (l : List BoundField) :
    (l.map BoundField.byTag).filter (p ·.tag) = (l.filter (p ·.tag)).map BoundField.byTag :=
  List.filter_map

/-- The object has the extract of the record, under every family. -/
theorem extract_ofPairs (h : r.Presents family name pairs) (family' : String)
    (excludes : List String) :
    (ofPairs name pairs).record.extract family' excludes =
      (r.extract family excludes).map Extract.byTag := by
  have hn : (ofPairs name pairs).record.entityName = .ok name := rfl
  unfold Record.extract
  rw [hn, h.entityName, boundFields_ofPairs h]
  cases r.boundFields family with
  | error e => rfl
  | ok l =>
    exact congrArg Except.ok (congrArg₂ (Extract.mk name)
      (filter_byTag (!excludes.contains ·) l) (filter_byTag excludes.contains l))

end JsonRecord

/-! ## Records that stand for each other -/

/-- The place of a record in a relationship statement. -/
inductive EdgePlace
  | startNode
  | endNode
  | edge

/-- The specification with a record put in a place. -/
def EdgeSpec.put (spec : EdgeSpec) (r : Record) : EdgePlace → EdgeSpec
  | .startNode => spec.withRecords r spec.endNode.record spec.edge
  | .endNode => spec.withRecords spec.startNode.record r spec.edge
  | .edge => spec.withRecords spec.startNode.record spec.endNode.record r

theorem EdgeMethod.spec_put (m : EdgeMethod) (spec : EdgeSpec) (r : Record) (place : EdgePlace) :
    m.spec (spec.put r place) = (m.spec spec).put r place := by
  cases m <;> cases place <;> rfl

namespace Record

/-- The record has a name and, under the family, pairs of distinct tags. -/
def Readable (family : String) (r : Record) : Prop :=
  ∃ name pairs, r.Presents family name pairs

/-- Whatever is asked for under the family, the two records give the same fragment. -/
structure Interchangeable (family : String) (r r' : Record) : Prop where
  assemble : ∀ (a : Assembler) (excludes : List String), a.tagName = family →
    a.assemble r excludes = a.assemble r' excludes
  assembleWithMatch : ∀ (a : Assembler) (excludes : List String) (clause : MatchClause),
    a.tagName = family →
      a.assembleWithMatch r excludes clause = a.assembleWithMatch r' excludes clause
  node : ∀ (c : NodeComposer) (op : NodeOperation), c.assembler.tagName = family →
    c.perform r op = c.perform r' op
  edge : ∀ (c : EdgeComposer) (op : EdgeOperation) (spec : EdgeSpec) (place : EdgePlace),
    c.assembler.tagName = family →
      c.perform (spec.put r place) op = c.perform (spec.put r' place) op
  callNode : ∀ (c : Compiler) (m : NodeMethod), c.config.tagName = family →
    c.callNode r m = c.callNode r' m
  callEdge : ∀ (c : Compiler) (m : EdgeMethod) (spec : EdgeSpec) (place : EdgePlace),
    c.config.tagName = family →
      c.callEdge (spec.put r place) m = c.callEdge (spec.put r' place) m

variable {family : String} {r r' : Record}

/-- Each operation is made of assemblies, so records with the same assemblies stand for each
other. -/
theorem Interchangeable.of_assembleWithMatch
    (h : ∀ (a : Assembler) (excludes : List String) (clause : MatchClause), a.tagName = family →
      a.assembleWithMatch r excludes clause = a.assembleWithMatch r' excludes clause) :
    r.Interchangeable family r' := by
  have node (c : NodeComposer) (op : NodeOperation) (hc : c.assembler.tagName = family) :
      c.perform r op = c.perform r' op := by
    rw [c.perform_eq, c.perform_eq, h _ _ _ hc]
  have edge (c : EdgeComposer) (op : EdgeOperation) (spec : EdgeSpec) (place : EdgePlace)
      (hc : c.assembler.tagName = family) :
      c.perform (spec.put r place) op = c.perform (spec.put r' place) op := by
    cases place with
    | startNode => exact c.perform_withRecords (h c.startAssembler _ _ hc) rfl rfl
    | endNode => exact c.perform_withRecords rfl (h c.endAssembler _ _ hc) rfl
    | edge => exact c.perform_withRecords rfl rfl (h c.assembler _ _ hc)
  refine ⟨fun a excludes => h a excludes .empty, h, node, edge, fun c m hc => ?_,
    fun c m spec place hc => ?_⟩
  · rw [c.callNode_eq, c.callNode_eq]
    exact node c.nodes m.operation hc
  · rw [c.callEdge_eq, c.callEdge_eq, m.spec_put, m.spec_put]
    exact edge c.edges m.operation (m.spec spec) place hc

theorem Readable.extract (h : r.Readable family) (excludes : List String) :
    ∃ e, r.extract family excludes = .ok e := by
  obtain ⟨name, pairs, h⟩ := h
  obtain ⟨l, hl, -⟩ := Except.map_eq_ok.1 h.taggedFields
  exact ⟨_, extract_ok.2 ⟨name, _, h.entityName, Except.map_eq_ok.2 ⟨l, hl, rfl⟩, rfl⟩⟩

end Record

/-! ## Operations on readable records -/

theorem NodeComposer.perform_readable (c : NodeComposer) (op : NodeOperation) {r : Record}
    (h : r.Readable c.assembler.tagName) : ∃ f, c.perform r op = .ok f := by
  obtain ⟨e, he⟩ := h.extract op.excludes
  exact ⟨_, (c.perform_ok r op).2 ⟨e, he, rfl⟩⟩

theorem EdgeComposer.perform_readable (c : EdgeComposer) (op : EdgeOperation) {spec : EdgeSpec}
    (h : ∀ u ∈ op.uses c.clause spec, u.record.Readable c.assembler.tagName) :
    ∃ f, c.perform spec op = .ok f := by
  simp only [EdgeOperation.uses, List.forall_mem_cons] at h
  obtain ⟨hs, ht, hr, -⟩ := h
  obtain ⟨es, hs⟩ := hs.extract []
  obtain ⟨et, ht⟩ := ht.extract []
  obtain ⟨er, hr⟩ := hr.extract spec.excludes
  exact ⟨_, (c.perform_ok spec op).2 ⟨es, et, er, hs, ht, hr, rfl⟩⟩

theorem Compiler.call_readable (c : Compiler) (call : Call)
    (h : ∀ u ∈ call.uses c.config.clause, u.record.Readable c.config.tagName) :
    ∃ f, c.call call = .ok f := by
  cases call with
  | node m r =>
    obtain ⟨f, hf⟩ := c.nodes.perform_readable m.operation (h _ (List.mem_singleton_self _))
    exact ⟨f, (c.callNode_eq m r).trans hf⟩
  | edge m spec =>
    obtain ⟨f, hf⟩ := c.edges.perform_readable m.operation h
    exact ⟨f, (c.callEdge_eq m spec).trans hf⟩

/-! ## The object of a record -/

theorem JsonRecord.interchangeable_ofPairs {r : Record} {family name : String}
    {pairs : List (String × Json)} (h : r.Presents family name pairs) :
    r.Interchangeable family (ofPairs name pairs).record := by
  refine .of_assembleWithMatch fun a excludes clause ha => ?_
  rw [a.assembleWithMatch_eq, a.assembleWithMatch_eq, extract_ofPairs h, ← ha]
  cases r.extract a.tagName excludes with
  | error e => rfl
  | ok e => exact congrArg Except.ok (a.matched_byTag clause e).symm

/-! ## Typed values -/

namespace Schema

variable {α : Type}

/-- The first tag of the family with what the accessor reads, if the tag is neither blank nor `-`,
the field is not hidden and reading succeeds. -/
def Field.pair? (f : Field α) (family : String) (x : α) : Option (String × Json) := do
  let (_, tag) ← f.tags.find? (·.1 = family)
  if Text.isBlank tag.toList ∨ tag = skipTag then none
  let read ← f.accessor
  let v ← read x
  return (tag, v)

/-- The pairs of a value under a family, in the order in which its fields are declared. -/
def pairs (s : Schema α) (family : String) (x : α) : List (String × Json) :=
  s.fields.filterMap (·.pair? family x)

theorem Field.pair?_tagged (f : Field α) (family : String) (x : α) :
    (f.tagged? family x).bind TaggedField.pair? = f.pair? family x := by
  unfold tagged? pair? tag?
  rw [lookup_eq_find?]
  cases f.tags.find? (·.1 = family) with
  | none => rfl
  | some p =>
    by_cases h : Text.isBlank p.2.toList ∨ p.2 = skipTag
    · simp [TaggedField.pair?, h]
    · cases ha : f.accessor with
      | none => simp [TaggedField.pair?, h, read, ha]
      | some get => cases hg : get x <;> simp [TaggedField.pair?, h, read, ha, hg]

theorem presents_record (s : Schema α) (family : String) (x : α)
    (h : ((s.pairs family x).map (·.1)).Nodup) :
    (s.record x).Presents family s.name (s.pairs family x) := by
  refine ⟨rfl, congrArg Except.ok (List.filterMap_filterMap.trans ?_), h⟩
  exact List.filterMap_congr fun f _ => f.pair?_tagged family x

end Schema

/-! ## Every representation -/

/-- **Representation independence.** The JSON object with the pairs of a record gives the same
fragment as the record, in each place of each operation. Among the records are typed values, whose
pairs are read off their schemas. Operations on such records do return a fragment. -/
theorem Record.representation :
    (∀ (r : Record) (family name : String) (pairs : List (String × Json)),
      r.Presents family name pairs →
        r.Interchangeable family (JsonRecord.ofPairs name pairs).record) ∧
    (∀ (α : Type) (s : Schema α) (family : String) (x : α),
      ((s.pairs family x).map (·.1)).Nodup →
        (s.record x).Interchangeable family
          (JsonRecord.ofPairs s.name (s.pairs family x)).record) ∧
    (∀ (c : NodeComposer) (op : NodeOperation) (r : Record),
      r.Readable c.assembler.tagName → ∃ f, c.perform r op = .ok f) ∧
    (∀ (c : EdgeComposer) (op : EdgeOperation) (spec : EdgeSpec),
      (∀ u ∈ op.uses c.clause spec, u.record.Readable c.assembler.tagName) →
        ∃ f, c.perform spec op = .ok f) ∧
    ∀ (c : Compiler) (call : Call),
      (∀ u ∈ call.uses c.config.clause, u.record.Readable c.config.tagName) →
        ∃ f, c.call call = .ok f := by
  refine ⟨fun r family name pairs h => ?_, fun α s family x h => ?_, fun c op r h => ?_,
    fun c op spec h => ?_, fun c call h => ?_⟩
  · exact JsonRecord.interchangeable_ofPairs h
  · exact JsonRecord.interchangeable_ofPairs (s.presents_record family x h)
  · exact c.perform_readable op h
  · exact c.perform_readable op h
  · exact c.call_readable call h

/-- A type with a field of two tags, a hidden field, one that cannot be read and one of a blank
tag. -/
def Schema.sensor : Schema String where
  name := "Sensor"
  fields :=
    [⟨"ident", [("yaml", "i"), ("json", "id"), ("json", "key")], some fun x => some (.string x)⟩,
      ⟨"secret", [("json", "secret")], none⟩,
      ⟨"handle", [("json", "handle")], some fun _ => none⟩,
      ⟨"pad", [("json", " ")], some fun _ => some .null⟩,
      ⟨"on", [("json", "on")], some fun _ => some (.bool true)⟩]

/-- A sensor is the object of its identifier and its state. -/
theorem Record.representation_sensor :
    (⟨.default, by decide⟩ : Compiler).callNode (Schema.sensor.record "s1")
        (.update .entity true ["id"]) =
      (⟨.default, by decide⟩ : Compiler).callNode
        (JsonRecord.ofPairs "Sensor" [("id", .string "s1"), ("on", .bool true)]).record
        (.update .entity true ["id"]) ∧
    ∃ f, (⟨.default, by decide⟩ : Compiler).callNode (Schema.sensor.record "s1")
      (.update .entity true ["id"]) = .ok f :=
  have h : ((Schema.sensor.pairs "json" "s1").map (·.1)).Nodup := by decide
  ⟨(representation.2.1 _ _ _ _ h).callNode _ _ rfl,
    representation.2.2.2.2 _ (.node (.update .entity true ["id"]) _)
      fun _ hu => List.mem_singleton.1 hu ▸ ⟨_, _, Schema.sensor.presents_record _ _ h⟩⟩

end CypherFragments
