import CypherFragments.Proofs.Operation
import CypherFragments.Record.JsonRecord
import CypherFragments.Record.Schema

/-!
# How operations fail

Of all that an operation does only the reading of its records can fail. The records are read one
after the other, each its name first, and the first failure is that of the operation.

* `Record.failure?`: why a record cannot be read, if it cannot.
* `NodeComposer.errorOf?_perform`, `EdgeComposer.errorOf?_perform`: an operation fails with the
  first failure of its records.
* `failure_exact`: what can make an operation fail, and what cannot.
-/

set_option autoImplicit false

namespace CypherFragments

/-! ## The error of a computation -/

/-- The error, if it ends with one. -/
def errorOf? {ε α : Type} : Except ε α → Option ε
  | .error err => some err
  | .ok _ => none

section ErrorOf

variable {ε α β : Type} {x : Except ε α}

@[simp] theorem errorOf?_ok (a : α) : errorOf? (.ok a : Except ε α) = none := rfl

@[simp] theorem errorOf?_error (err : ε) : errorOf? (.error err : Except ε α) = some err := rfl

theorem errorOf?_eq_some {err : ε} : errorOf? x = some err ↔ x = .error err := by
  cases x <;> simp

theorem errorOf?_map (f : α → β) : errorOf? (x.map f) = errorOf? x := by
  cases x <;> rfl

/-- The first error wins, if that of the second computation does not hang on the first result. -/
theorem errorOf?_bind {f : α → Except ε β} {o : Option ε} (h : ∀ a, errorOf? (f a) = o) :
    errorOf? (x >>= f) = (errorOf? x).or o := by
  cases x with
  | error err => rfl
  | ok a => exact h a

end ErrorOf

/-! ## Records -/

namespace Record

variable (r : Record) (family : String)

/-- Why nothing can be extracted from the record: it has no name, or else no fields. -/
def failure? : Option ExtractError :=
  (errorOf? r.entityName).or (errorOf? (r.taggedFields family))

theorem failure?_eq_some {err : ExtractError} :
    r.failure? family = some err ↔ r.entityName = .error err ∨
      ∃ name, r.entityName = .ok name ∧ r.taggedFields family = .error err := by
  unfold failure?
  cases r.entityName with
  | error err' => simp
  | ok name => simp [errorOf?_eq_some]

theorem errorOf?_extract (excludes : List String) :
    errorOf? (r.extract family excludes) = r.failure? family :=
  errorOf?_bind fun _ =>
    calc
      _ = (errorOf? (r.boundFields family)).or none := errorOf?_bind fun _ => rfl
      _ = errorOf? (r.taggedFields family) := by rw [Option.or_none, boundFields, errorOf?_map]

end Record

theorem Schema.failure?_record {α : Type} (s : Schema α) (x : α) (family : String) :
    (s.record x).failure? family = none := rfl

namespace JsonRecord

variable (d : JsonRecord)

/-- Whatever is not an object fails in both ways alike. -/
theorem record_of_not_object (h : ∀ members, d.value ≠ .object members) :
    d.record.entityName = .error d.unsupported ∧
      ∀ family, d.record.taggedFields family = .error d.unsupported := by
  cases hv : d.value with
  | object members => exact absurd hv (h members)
  | _ => simp [record, hv]

theorem failure?_record (family : String) {err : ExtractError} :
    d.record.failure? family = some err ↔
      (∀ members, d.value ≠ .object members) ∧ err = d.unsupported := by
  by_cases h : ∃ members, d.value = .object members
  · obtain ⟨members, hv⟩ := h
    simp [Record.failure?, record, hv]
  · have hv := not_exists.1 h
    simp [Record.failure?, d.record_of_not_object hv, hv, eq_comm]

end JsonRecord

/-! ## Operations -/

theorem Assembler.errorOf?_assembleWithMatch (a : Assembler) (r : Record) (excludes : List String)
    (clause : MatchClause) :
    errorOf? (a.assembleWithMatch r excludes clause) = r.failure? a.tagName := by
  rw [assembleWithMatch_eq, errorOf?_map, Record.errorOf?_extract]

theorem NodeComposer.errorOf?_perform (c : NodeComposer) (op : NodeOperation) (r : Record) :
    errorOf? (c.perform r op) = r.failure? c.assembler.tagName := by
  rw [perform_eq, errorOf?_map, Assembler.errorOf?_assembleWithMatch]

/-- The records in the order in which they are read. -/
def EdgeSpec.records (spec : EdgeSpec) : List Record :=
  [spec.startNode.record, spec.endNode.record, spec.edge]

theorem EdgeSpec.findSome?_records (spec : EdgeSpec) (f : Record → Option ExtractError) :
    spec.records.findSome? f =
      (f spec.startNode.record).or ((f spec.endNode.record).or ((f spec.edge).or none)) := by
  simp only [records, List.findSome?_cons]
  cases f spec.startNode.record <;> cases f spec.endNode.record <;> cases f spec.edge <;> rfl

theorem EdgeMethod.records_spec (m : EdgeMethod) (spec : EdgeSpec) :
    (m.spec spec).records = spec.records := by
  cases m <;> rfl

theorem EdgeComposer.errorOf?_perform (c : EdgeComposer) (op : EdgeOperation) (spec : EdgeSpec) :
    errorOf? (c.perform spec op) = spec.records.findSome? (·.failure? c.assembler.tagName) := by
  have hs := c.startAssembler.errorOf?_assembleWithMatch spec.startNode.record []
    (spec.startNode.clause.resolve c.clause)
  have ht := c.endAssembler.errorOf?_assembleWithMatch spec.endNode.record []
    (spec.endNode.clause.resolve c.clause)
  have hr := c.assembler.errorOf?_assembleWithMatch spec.edge spec.excludes (op.clause c.clause)
  rw [perform_eq]
  -- None of the assemblies depends on what those before it gave, so their errors are lined up.
  calc
    _ = _ := errorOf?_bind fun _ => errorOf?_bind fun _ => errorOf?_bind fun _ => errorOf?_ok _
    _ = (spec.startNode.record.failure? c.assembler.tagName).or
        ((spec.endNode.record.failure? c.assembler.tagName).or
          ((spec.edge.failure? c.assembler.tagName).or none)) := by
      rw [hs, ht, hr]
      rfl
    _ = _ := (spec.findSome?_records (·.failure? c.assembler.tagName)).symm

/-- The records in the order in which they are read. -/
def Call.records : Call → List Record
  | .node _ r => [r]
  | .edge _ spec => spec.records

theorem Compiler.errorOf?_call (c : Compiler) (x : Call) :
    errorOf? (c.call x) = x.records.findSome? (·.failure? c.config.tagName) := by
  cases x with
  | node m r =>
    rw [call, callNode_eq, NodeComposer.errorOf?_perform, Call.records, List.findSome?_singleton]
    rfl
  | edge m spec =>
    rw [call, callEdge_eq, EdgeComposer.errorOf?_perform, EdgeMethod.records_spec]
    rfl

/-- **Operations fail as their records do.** An operation fails iff one of its records does, with
the unchanged failure of the first of them, and all operations on the same records fail alike. The
failure of a record is that of its name if this fails, and else that of its fields. A value of a
declared type never fails. A JSON value fails iff it is no object, in both ways alike. -/
theorem failure_exact :
    (∀ (c : NodeComposer) (op : NodeOperation) (r : Record) (err : ExtractError),
      c.perform r op = .error err ↔ r.failure? c.assembler.tagName = some err) ∧
    (∀ (c : EdgeComposer) (op : EdgeOperation) (spec : EdgeSpec) (err : ExtractError),
      c.perform spec op = .error err ↔
        spec.records.findSome? (·.failure? c.assembler.tagName) = some err) ∧
    (∀ (c : Compiler) (x : Call) (err : ExtractError),
      c.call x = .error err ↔ x.records.findSome? (·.failure? c.config.tagName) = some err) ∧
    (∀ (c c' : Compiler) (x y : Call) (err : ExtractError),
      c.config.tagName = c'.config.tagName → x.records = y.records →
        (c.call x = .error err ↔ c'.call y = .error err)) ∧
    (∀ (r : Record) (family : String) (err : ExtractError),
      r.failure? family = some err ↔ r.entityName = .error err ∨
        ∃ name, r.entityName = .ok name ∧ r.taggedFields family = .error err) ∧
    (∀ (α : Type) (s : Schema α) (x : α) (family : String),
      (s.record x).failure? family = none) ∧
    ∀ d : JsonRecord,
      (∀ (family : String) (err : ExtractError), d.record.failure? family = some err ↔
        (∀ members, d.value ≠ .object members) ∧ err = d.unsupported) ∧
      ((∀ members, d.value ≠ .object members) → d.record.entityName = .error d.unsupported ∧
        ∀ family, d.record.taggedFields family = .error d.unsupported) := by
  refine ⟨fun c op r err => ?_, fun c op spec err => ?_, fun c x err => ?_,
    fun c c' x y err hc hx => ?_, fun r family err => r.failure?_eq_some family,
    fun α s x family => s.failure?_record x family,
    fun d => ⟨fun family err => d.failure?_record family, d.record_of_not_object⟩⟩
  · rw [← errorOf?_eq_some, c.errorOf?_perform]
  · rw [← errorOf?_eq_some, c.errorOf?_perform]
  · rw [← errorOf?_eq_some, c.errorOf?_call]
  · rw [← errorOf?_eq_some, ← errorOf?_eq_some, c.errorOf?_call, c'.errorOf?_call, hc, hx]

/-- A relationship whose end fails in both ways and which is itself no object. -/
def EdgeSpec.broken (start : Record) : EdgeSpec where
  startNode := { record := start }
  endNode :=
    { record :=
        ⟨.error (.unsupportedKind "name"), fun _ => .error (.unsupportedKind "fields")⟩ }
  edge := JsonRecord.record ⟨"Knows", .null⟩

/-- What is read first fails first: the fields of the start before the name of the end, and the name
of the end before its fields and the relationship. -/
theorem failure_exact_order :
    (⟨.default, by decide⟩ : Compiler).call
        (.edge .create (.broken ⟨.ok "User", fun _ => .error (.unsupportedKind "start")⟩)) =
      .error (.unsupportedKind "start") ∧
    (⟨.default, by decide⟩ : Compiler).call
        (.edge (.updateBy .empty) (.broken ⟨.ok "User", fun _ => .ok []⟩)) =
      .error (.unsupportedKind "name") := by
  obtain ⟨-, -, hcall, halike, -⟩ := failure_exact
  refine ⟨(hcall _ _ _).2 rfl, ?_⟩
  exact (halike _ _ (.edge .createBy (.broken ⟨.ok "User", fun _ => .ok []⟩)) _ _ rfl rfl).1
    ((hcall _ _ _).2 rfl)

end CypherFragments
