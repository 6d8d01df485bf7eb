import CypherFragments.Proofs.Assembly
import CypherFragments.Proofs.Edge.Parameters

/-!
# The sections of a query

What the query of an operation reads, written down from what it was given: the names of the records,
the tags that are left to be written and the entries of the clauses. A keyword stands in it iff
there is something for it to govern.

* `listing_eq_empty`: a section is missing iff its list is empty, whatever its items.
* `text_whereSection`, `text_setSection`, `text_properties`: the sections of a statement.
* `whereSection_eq`, `setSection_eq`: a list without items and one without text come to the same.
* `Record.tags_extract`: the fields that are written.
* `NodeOperation.text_statement`, `EdgeOperation.text_statement`: the whole query.
-/

set_option autoImplicit false

namespace CypherFragments

open Query

/-! ## Lists with a keyword -/

/-- The items between `lead` and `trail`; nothing if there are none. -/
def listing (lead sep trail : String) (items : List String) : String :=
  if items = [] then "" else lead ++ sep.intercalate items ++ trail

/-- Items that are not empty are not lost when they are joined. -/
theorem intercalate_eq_empty {sep : String} {items : List String} (h : ∀ s ∈ items, s ≠ "") :
    sep.intercalate items = "" ↔ items = [] := by
  cases items with
  | nil => simp
  | cons s items =>
    have hs : s ≠ "" := h s List.mem_cons_self
    cases items with
    | nil => simpa using hs
    | cons t items =>
      -- The first item alone keeps the text from being empty.
      rw [String.intercalate_cons_cons]
      simp [String.append_eq_empty_iff, hs]

theorem listing_eq_empty {lead sep trail : String} {items : List String} (h : lead ≠ "") :
    listing lead sep trail items = "" ↔ items = [] := by
  unfold listing
  split
  · simp [*]
  · simp [String.append_eq_empty_iff, *]

namespace Query

theorem text_separated (sep : String) : ∀ qs : List Query,
    (separated sep qs).text = sep.intercalate (qs.map text)
  | [] => rfl
  | [q] => by simp [separated]
  | q :: r :: qs => by
    have ih := text_separated sep (r :: qs)
    unfold separated at ih ⊢
    rw [List.intercalate_cons_cons, text_append, text_append, ih, text_ofText, List.map_cons,
      List.map_cons, List.map_cons, String.intercalate_cons_cons, String.append_assoc]

/-- A text with a parameter after it. -/
theorem text_led (s p : String) : text [.text s, .slot p] = s ++ "$" ++ p := by
  simp [text, placeholder, render, String.append_assoc]

theorem text_conjunction (cs : List Condition) :
    (conjunction cs).text =
      " AND ".intercalate (cs.map fun c => c.operand ++ " = $" ++ c.param) := by
  simp only [conjunction, text_separated, List.map_map, Function.comp_def, text_led]
  simp [String.append_assoc]

theorem text_assignments (var : String) (bs : List Binding) :
    (assignments var bs).text =
      ", ".intercalate (bs.map fun b => var ++ "." ++ b.property ++ " = $" ++ b.param) := by
  simp only [assignments, text_separated, List.map_map, Function.comp_def, text_led]
  simp [String.append_assoc]

theorem text_properties (bs : List Binding) :
    (properties bs).text =
      listing "\x7b" ", " "\x7d" (bs.map fun b => b.property ++ ": $" ++ b.param) := by
  cases bs with
  | nil => rfl
  | cons b bs =>
    simp only [properties, List.isEmpty_cons, Bool.false_eq_true, if_false, text_append,
      text_ofText, text_separated, List.map_map, Function.comp_def, text_led, listing,
      List.map_eq_nil_iff, List.cons_ne_nil]
    simp [String.append_assoc]

theorem text_whereSection (cs : List Condition) :
    (whereSection cs).text =
      listing " WHERE " " AND " "" (cs.map fun c => c.operand ++ " = $" ++ c.param) := by
  cases cs with
  | nil => rfl
  | cons c cs => simp [whereSection, listing, text_conjunction]

theorem text_setSection (var : String) (bs : List Binding) :
    (setSection var bs).text =
      listing " SET " ", " "" (bs.map fun b => var ++ "." ++ b.property ++ " = $" ++ b.param) := by
  cases bs with
  | nil => rfl
  | cons b bs => simp [setSection, listing, text_assignments]

/-- Conditions have a text, even if their names are empty. -/
theorem conjunction_eq_empty (cs : List Condition) : (conjunction cs).text = "" ↔ cs = [] := by
  rw [text_conjunction, intercalate_eq_empty]
  · exact List.map_eq_nil_iff
  · intro s hs
    obtain ⟨c, -, rfl⟩ := List.mem_map.1 hs
    simp [String.append_eq_empty_iff]

theorem assignments_eq_empty (var : String) (bs : List Binding) :
    (assignments var bs).text = "" ↔ bs = [] := by
  rw [text_assignments, intercalate_eq_empty]
  · exact List.map_eq_nil_iff
  · intro s hs
    obtain ⟨b, -, rfl⟩ := List.mem_map.1 hs
    simp [String.append_eq_empty_iff]

/-- It makes no difference whether the conditions are tested or their text. -/
theorem whereSection_eq (cs : List Condition) :
    whereSection cs =
      if (conjunction cs).text = "" then [] else ofText " WHERE " ++ conjunction cs := by
  simp only [whereSection, List.isEmpty_iff, conjunction_eq_empty]

theorem setSection_eq (var : String) (bs : List Binding) :
    setSection var bs =
      if (assignments var bs).text = "" then [] else ofText " SET " ++ assignments var bs := by
  simp only [setSection, List.isEmpty_iff, assignments_eq_empty]

end Query

/-! ## What is written -/

/-- The field is written: it has a value, and its tag is neither blank nor `-` nor left out. -/
def TaggedField.Written (excludes : List String) (f : TaggedField) : Prop :=
  f.value.isSome ∧ Text.isBlank f.tag.toList = false ∧ f.tag ≠ "-" ∧ f.tag ∉ excludes

instance (excludes : List String) (f : TaggedField) : Decidable (f.Written excludes) :=
  inferInstanceAs (Decidable (_ ∧ _))

/-- The tags of the fields that are written. -/
def writtenTags (excludes : List String) (fields : List TaggedField) : List String :=
  (fields.filter (TaggedField.Written excludes)).map (·.tag)

/-- `operand = $param` for each entry. -/
def MatchClause.terms (c : MatchClause) (var pre : String) : List String :=
  c.entries.map fun m => m.operand var ++ " = $" ++ (pre ++ m.param)

def MatchClause.whereText (c : MatchClause) (var pre : String) : String :=
  listing " WHERE " " AND " "" (c.terms var pre)

/-- `var.tag = $param` for each tag. -/
def setText (var pre : String) (tags : List String) : String :=
  listing " SET " ", " "" (tags.map fun t => var ++ "." ++ t ++ " = $" ++ (pre ++ t))

/-- `tag: $param` for each tag, in braces. -/
def literalText (pre : String) (tags : List String) : String :=
  listing "\x7b" ", " "\x7d" (tags.map fun t => t ++ ": $" ++ (pre ++ t))

def returnText (vars : List String) (returned : Bool) : String :=
  if returned then " RETURN " ++ ", ".intercalate vars else ""

/-- `MATCH (var:label)` and what the node is found by. -/
def matchText (var pre label : String) (c : MatchClause) : String :=
  "MATCH (" ++ (var ++ ":" ++ label) ++ ")" ++ c.whereText var pre

/-- `(s)-[inner]->(t)` -/
def joinText (s t : String) (direction : Direction) (inner : String) : String :=
  "(" ++ s ++ ")" ++ direction.before ++ "[" ++ inner ++ "]" ++ direction.after ++ "(" ++ t ++ ")"

/-- The query of an operation on a record of this name, of which these tags are written. -/
def NodeOperation.wording (c : NodeComposer) (name : String) (tags : List String) :
    NodeOperation → String
  | withProperties label =>
    "(" ++ (c.assembler.var ++ ":" ++ label.resolve name ++ " "
      ++ literalText c.assembler.paramPrefix tags) ++ ")"
  | find label choice returned =>
    matchText c.assembler.var c.assembler.paramPrefix (label.resolve name) (choice.resolve c.clause)
      ++ returnText [c.assembler.var] returned
  | create label returned _ =>
    "CREATE (" ++ (c.assembler.var ++ ":" ++ label.resolve name ++ " "
      ++ literalText c.assembler.paramPrefix tags) ++ ")" ++ returnText [c.assembler.var] returned
  | update label choice returned _ =>
    "MERGE (" ++ (c.assembler.var ++ ":" ++ label.resolve name) ++ ")"
      ++ (choice.resolve c.clause).whereText c.assembler.var c.assembler.paramPrefix
      ++ setText c.assembler.var c.assembler.paramPrefix tags
      ++ returnText [c.assembler.var] returned
  | delete choice detach =>
    "MATCH (" ++ c.assembler.var ++ ")"
      ++ (choice.resolve c.clause).whereText c.assembler.var c.assembler.paramPrefix
      ++ ((if detach then " DETACH DELETE " else " DELETE ") ++ c.assembler.var)

/-- The query of an operation on three records of these names; the tags are of the relationship. -/
def EdgeOperation.wording (c : EdgeComposer) (spec : EdgeSpec) (s t r : String)
    (tags : List String) (op : EdgeOperation) : String :=
  matchText c.startVar "start_" (spec.startNode.label.resolve s)
      (spec.startNode.clause.resolve c.clause)
    ++ " "
    ++ matchText c.endVar "end_" (spec.endNode.label.resolve t)
      (spec.endNode.clause.resolve c.clause)
    ++ " "
    ++ (match op with
      | create =>
        "CREATE " ++ joinText c.startVar c.endVar spec.direction
          (c.assembler.var ++ ":" ++ spec.label.resolve r ++ " "
            ++ literalText c.assembler.paramPrefix tags)
      | update choice =>
        "MERGE " ++ joinText c.startVar c.endVar spec.direction
          (c.assembler.var ++ ":" ++ spec.label.resolve r)
          ++ (choice.resolve c.clause).whereText c.assembler.var c.assembler.paramPrefix
          ++ setText c.assembler.var c.assembler.paramPrefix tags)
    ++ returnText [c.startVar, c.assembler.var, c.endVar] spec.returned

/-! ## The parts of a statement -/

theorem Query.text_returnSection (vars : List String) (returned : Bool) :
    (returnSection vars returned).text = returnText vars returned := by
  cases returned
  · rfl
  · exact text_ofText _

theorem Pattern.text_withProperties (p : Pattern) (bs : List Binding) :
    (p.withProperties bs).text = p.text ++ " " ++ (properties bs).text := by
  rw [withProperties, text_append, text_ofText]

theorem NodeMatch.text_query (n : NodeMatch) :
    n.query.text = "MATCH (" ++ n.pattern.text ++ ")" ++ (whereSection n.conditions).text := by
  rw [query, text_append, text_ofText]

theorem Ends.text_query (e : Ends) :
    e.query.text = e.startNode.query.text ++ " " ++ e.endNode.query.text ++ " " := by
  simp only [query, text_append, text_ofText]

theorem Ends.text_join (e : Ends) (d : Direction) (inner : Query) :
    (e.join d inner).text =
      joinText e.startNode.pattern.var e.endNode.pattern.var d inner.text := by
  rw [join, joinText]
  simp only [text_append, text_ofText, String.append_assoc]

theorem Statement.text_nodePattern (p : Pattern) (bs : List Binding) :
    (nodePattern p bs).query.text = "(" ++ (p.text ++ " " ++ (properties bs).text) ++ ")" := by
  simp only [Statement.query, text_append, text_ofText, Pattern.text_withProperties]

theorem Statement.text_matchNode (n : NodeMatch) (returned : Bool) :
    (matchNode n returned).query.text = n.query.text ++ returnText [n.pattern.var] returned := by
  simp only [Statement.query, text_append, text_returnSection]

theorem Statement.text_createNode (p : Pattern) (bs : List Binding) (returned : Bool) :
    (createNode p bs returned).query.text =
      "CREATE (" ++ (p.text ++ " " ++ (properties bs).text) ++ ")"
        ++ returnText [p.var] returned := by
  simp only [Statement.query, text_append, text_ofText, Pattern.text_withProperties,
    text_returnSection]

theorem Statement.text_updateNode (n : NodeMatch) (bs : List Binding) (returned : Bool) :
    (updateNode n bs returned).query.text =
      "MERGE (" ++ n.pattern.text ++ ")" ++ (whereSection n.conditions).text
        ++ (setSection n.pattern.var bs).text ++ returnText [n.pattern.var] returned := by
  simp only [Statement.query, text_append, text_ofText, text_returnSection]

theorem Statement.text_deleteNode (var : String) (cs : List Condition) (detach : Bool) :
    (deleteNode var cs detach).query.text =
      "MATCH (" ++ var ++ ")" ++ (whereSection cs).text
        ++ ((if detach then " DETACH DELETE " else " DELETE ") ++ var) := by
  simp only [Statement.query, text_append, text_ofText]

theorem Statement.text_createEdge (e : Ends) (p : Pattern) (d : Direction) (bs : List Binding)
    (returned : Bool) :
    (createEdge e p d bs returned).query.text =
      e.startNode.query.text ++ " " ++ e.endNode.query.text ++ " "
        ++ ("CREATE " ++ joinText e.startNode.pattern.var e.endNode.pattern.var d
          (p.text ++ " " ++ (properties bs).text))
        ++ returnText (e.vars p) returned := by
  simp only [Statement.query, text_append, text_ofText, Ends.text_query, Ends.text_join,
    Pattern.text_withProperties, text_returnSection, String.append_assoc]

theorem Statement.text_updateEdge (e : Ends) (p : Pattern) (d : Direction) (cs : List Condition)
    (bs : List Binding) (returned : Bool) :
    (updateEdge e p d cs bs returned).query.text =
      e.startNode.query.text ++ " " ++ e.endNode.query.text ++ " "
        ++ ("MERGE " ++ joinText e.startNode.pattern.var e.endNode.pattern.var d p.text
          ++ (whereSection cs).text ++ (setSection p.var bs).text)
        ++ returnText (e.vars p) returned := by
  simp only [Statement.query, text_append, text_ofText, Ends.text_query, Ends.text_join,
    text_returnSection, String.append_assoc]

/-! ## The parts of a fragment -/

/-- A field that is bound and not left out is written, with its tag. -/
theorem TaggedField.tag_written (excludes : List String) (f : TaggedField) :
    (f.bound?.filter (!excludes.contains ·.tag)).map (·.tag) =
      if f.Written excludes then some f.tag else none := by
  -- The cases are those in which `bound?` drops a field, then whether it is left out.
  by_cases hb : Text.isBlank f.tag.toList = true
  · simp [bound?, Written, hb]
  by_cases hs : f.tag = "-"
  · simp [bound?, Written, hs, skipTag]
  rcases hv : f.value with _ | v
  · simp [bound?, Written, hv]
  · by_cases hx : f.tag ∈ excludes <;>
      simp [bound?, Written, hb, hs, hv, hx, skipTag, Option.filter]

theorem Record.tags_extract {r : Record} {family : String} {excludes : List String}
    {fields : List TaggedField} {e : Extract} (hf : r.taggedFields family = .ok fields)
    (he : r.extract family excludes = .ok e) :
    e.fields.map (·.tag) = writtenTags excludes fields := by
  obtain ⟨name, l, -, hl, rfl⟩ := extract_ok.1 he
  obtain ⟨fields', hf', rfl⟩ := Except.map_eq_ok.1 hl
  obtain rfl := Except.ok.inj (hf.symm.trans hf')
  calc
    ((fields.filterMap TaggedField.bound?).filter (!excludes.contains ·.tag)).map (·.tag)
    _ = fields.filterMap fun f => (f.bound?.filter (!excludes.contains ·.tag)).map (·.tag) := by
      rw [List.filter_filterMap, List.map_filterMap]
    _ = fields.filterMap fun f => if f.Written excludes then some f.tag else none :=
      List.filterMap_congr fun f _ => f.tag_written excludes
    _ = writtenTags excludes fields := by
      rw [writtenTags, ← List.filterMap_eq_map, List.filterMap_filter]
      simp

namespace Assembler

variable (a : Assembler) (clause : MatchClause) (e : Extract)

theorem terms_matched :
    ((a.matched clause e).conditions.map fun c => c.operand ++ " = $" ++ c.param) =
      clause.terms a.var a.paramPrefix := List.map_map

theorem whereSection_matched :
    (whereSection (a.matched clause e).conditions).text = clause.whereText a.var a.paramPrefix := by
  rw [text_whereSection, terms_matched]
  rfl

theorem setSection_matched :
    (setSection a.var (a.matched clause e).bindings).text =
      setText a.var a.paramPrefix (e.fields.map (·.tag)) := by
  rw [text_setSection, setText, List.map_map]
  exact congrArg _ List.map_map

theorem properties_matched :
    (properties (a.matched clause e).bindings).text =
      literalText a.paramPrefix (e.fields.map (·.tag)) := by
  rw [text_properties, literalText, List.map_map]
  exact congrArg _ List.map_map

/-- No comparison is so degenerate that the predicate gets lost. -/
theorem matchPredicate_matched :
    (a.matched clause e).matchPredicate.text = "" ↔ clause.entries = [] := by
  rw [Fragment.matchPredicate, conjunction_eq_empty]
  exact List.map_eq_nil_iff

theorem setList_matched : (a.matched clause e).setList.text = "" ↔ e.fields = [] := by
  rw [Fragment.setList, assignments_eq_empty]
  exact List.map_eq_nil_iff

theorem createLiteral_matched : (a.matched clause e).createLiteral.text = "" ↔ e.fields = [] := by
  rw [Fragment.createLiteral, text_properties, listing_eq_empty (by decide)]
  exact List.map_eq_nil_iff.trans List.map_eq_nil_iff

theorem nodeMatch_matched (label : Label) :
    ((a.matched clause e).nodeMatch label).query.text =
      matchText a.var a.paramPrefix (label.resolve e.entityName) clause := by
  rw [NodeMatch.text_query, matchText, ← a.whereSection_matched clause e]
  rfl

end Assembler

/-! ## Queries -/

theorem NodeOperation.text_statement (c : NodeComposer) (e : Extract) (op : NodeOperation) :
    (op.statement (c.assembler.matched (op.clause c.clause) e)).query.text =
      op.wording c e.entityName (e.fields.map (·.tag)) := by
  have hwhere := c.assembler.whereSection_matched (op.clause c.clause) e
  have hset := c.assembler.setSection_matched (op.clause c.clause) e
  have hprop := c.assembler.properties_matched (op.clause c.clause) e
  have hmatch := c.assembler.nodeMatch_matched (op.clause c.clause) e
  cases op with
  | withProperties label =>
    rw [wording, ← hprop]
    exact Statement.text_nodePattern _ _
  | find label choice returned =>
    simp only [clause] at hmatch ⊢
    rw [wording, ← hmatch]
    exact Statement.text_matchNode _ _
  | create label returned excludes =>
    rw [wording, ← hprop]
    exact Statement.text_createNode _ _ _
  | update label choice returned excludes =>
    simp only [clause] at hwhere hset ⊢
    rw [wording, ← hwhere, ← hset]
    exact Statement.text_updateNode _ _ _
  | delete choice detach =>
    simp only [clause] at hwhere ⊢
    rw [wording, ← hwhere]
    exact Statement.text_deleteNode _ _ _

theorem EdgeOperation.text_statement (c : EdgeComposer) (spec : EdgeSpec) (es et er : Extract)
    (op : EdgeOperation) :
    (op.statement spec (c.edgeMatched op er) (c.startMatched spec es)
        (c.endMatched spec et)).query.text =
      op.wording c spec es.entityName et.entityName er.entityName (er.fields.map (·.tag)) := by
  have hs : ((c.startMatched spec es).nodeMatch spec.startNode.label).query.text =
      matchText c.startVar "start_" (spec.startNode.label.resolve es.entityName)
        (spec.startNode.clause.resolve c.clause) := c.startAssembler.nodeMatch_matched _ es _
  have ht : ((c.endMatched spec et).nodeMatch spec.endNode.label).query.text =
      matchText c.endVar "end_" (spec.endNode.label.resolve et.entityName)
        (spec.endNode.clause.resolve c.clause) := c.endAssembler.nodeMatch_matched _ et _
  have hwhere := c.assembler.whereSection_matched (op.clause c.clause) er
  have hset := c.assembler.setSection_matched (op.clause c.clause) er
  have hprop := c.assembler.properties_matched (op.clause c.clause) er
  cases op with
  | create =>
    rw [wording, ← hs, ← ht, ← hprop]
    exact Statement.text_createEdge ⟨_, _⟩ _ _ _ _
  | update choice =>
    simp only [clause] at hwhere hset
    rw [wording, ← hs, ← ht, ← hwhere, ← hset]
    exact Statement.text_updateEdge ⟨_, _⟩ _ _ _ _ _

/-! ## Operations -/

/-- The parts that a query is composed of are empty texts iff there is nothing that they list. -/
structure Fragment.Guarded (f : Fragment) (clause : MatchClause) (tags : List String) : Prop where
  matchPredicate : f.matchPredicate.text = "" ↔ clause.entries = []
  setList : f.setList.text = "" ↔ tags = []
  createLiteral : f.createLiteral.text = "" ↔ tags = []

/-- The statement and the parameters have no part in it. -/
theorem Fragment.Guarded.copy {f f' : Fragment} {clause : MatchClause} {tags : List String}
    (h : f.Guarded clause tags) (hvar : f'.var = f.var) (hcond : f'.conditions = f.conditions)
    (hbind : f'.bindings = f.bindings) : f'.Guarded clause tags where
  matchPredicate := by rw [Fragment.matchPredicate, hcond]; exact h.matchPredicate
  setList := by rw [Fragment.setList, hvar, hbind]; exact h.setList
  createLiteral := by rw [Fragment.createLiteral, hbind]; exact h.createLiteral

theorem Assembler.guarded_matched (a : Assembler) (clause : MatchClause) (e : Extract) :
    (a.matched clause e).Guarded clause (e.fields.map (·.tag)) where
  matchPredicate := a.matchPredicate_matched clause e
  setList := (a.setList_matched clause e).trans List.map_eq_nil_iff.symm
  createLiteral := (a.createLiteral_matched clause e).trans List.map_eq_nil_iff.symm

theorem Record.exists_extract_tags {r : Record} {family name : String} {fields : List TaggedField}
    (hn : r.entityName = .ok name) (hf : r.taggedFields family = .ok fields)
    (excludes : List String) :
    ∃ e, r.extract family excludes = .ok e ∧ e.entityName = name ∧
      e.fields.map (·.tag) = writtenTags excludes fields := by
  have he : r.extract family excludes = .ok _ :=
    extract_ok.2 ⟨name, _, hn, Except.map_eq_ok.2 ⟨fields, hf, rfl⟩, rfl⟩
  exact ⟨_, he, rfl, tags_extract hf he⟩

/-- **A keyword stands in a query iff it governs something.** The query of an operation is the text
that is written from the names of the records, the entries of the clauses and the tags left to be
written: each section lists all of them in order, and without any there is no section. The fragments
say the same by their parts. The methods of a compiler are such operations. -/
theorem query_sections :
    (∀ (c : NodeComposer) (op : NodeOperation) (r : Record) (name : String)
      (fields : List TaggedField), r.entityName = .ok name →
      r.taggedFields c.assembler.tagName = .ok fields →
      ∃ f, c.perform r op = .ok f ∧
        f.query.text = op.wording c name (writtenTags op.excludes fields) ∧
        f.Guarded (op.clause c.clause) (writtenTags op.excludes fields)) ∧
    (∀ (c : EdgeComposer) (op : EdgeOperation) (spec : EdgeSpec) (ns nt nr : String)
      (fs ft fr : List TaggedField),
      spec.startNode.record.entityName = .ok ns →
      spec.startNode.record.taggedFields c.assembler.tagName = .ok fs →
      spec.endNode.record.entityName = .ok nt →
      spec.endNode.record.taggedFields c.assembler.tagName = .ok ft →
      spec.edge.entityName = .ok nr → spec.edge.taggedFields c.assembler.tagName = .ok fr →
      ∃ f, c.perform spec op = .ok f ∧
        f.query.text = op.wording c spec ns nt nr (writtenTags spec.excludes fr) ∧
        f.Guarded (op.clause c.clause) (writtenTags spec.excludes fr)) ∧
    (∀ (c : Compiler) (m : NodeMethod) (r : Record),
      c.callNode r m = c.nodes.perform r m.operation) ∧
    ∀ (c : Compiler) (m : EdgeMethod) (spec : EdgeSpec),
      c.callEdge spec m = c.edges.perform (m.spec spec) m.operation := by
  refine ⟨fun c op r name fields hn hf => ?_,
    fun c op spec ns nt nr fs ft fr hns hfs hnt hft hnr hfr => ?_,
    fun c m r => c.callNode_eq m r, fun c m spec => c.callEdge_eq m spec⟩
  · obtain ⟨e, he, rfl, htags⟩ := Record.exists_extract_tags hn hf op.excludes
    refine ⟨_, (c.perform_ok r op).2 ⟨e, he, rfl⟩, ?_, ?_⟩
    · exact htags ▸ op.text_statement c e
    · exact htags ▸ (c.assembler.guarded_matched (op.clause c.clause) e).copy rfl rfl rfl
  · obtain ⟨es, hes, rfl, -⟩ := Record.exists_extract_tags hns hfs []
    obtain ⟨et, het, rfl, -⟩ := Record.exists_extract_tags hnt hft []
    obtain ⟨er, her, rfl, htags⟩ := Record.exists_extract_tags hnr hfr spec.excludes
    refine ⟨_, (c.perform_ok spec op).2 ⟨es, et, er, hes, het, her, rfl⟩, ?_, ?_⟩
    · exact htags ▸ op.text_statement c spec es et er
    · exact htags ▸ (c.assembler.guarded_matched (op.clause c.clause) er).copy rfl rfl rfl

/-- A user of whose fields one has no tag, one is tagged to be skipped and one has no value. -/
def Record.sparse : Record where
  entityName := .ok "User"
  taggedFields _ := .ok
    [⟨"id", "id", some (.string "a")⟩, ⟨"mail", " ", some (.string "m")⟩,
      ⟨"token", "-", some .null⟩, ⟨"age", "age", none⟩, ⟨"name", "name", some (.string "n")⟩]

/-- The entry of the node's clause is all empty and stands nevertheless. The relationship has an
empty clause and its only field is left out. -/
theorem query_sections_degenerate : ∃ f g,
    (⟨.default, by decide⟩ : Compiler).callNode .sparse
      (.updateBy .entity ⟨[⟨"", ""⟩]⟩ true ["name"]) = .ok f ∧
    f.query.text = "MERGE (flava:User) WHERE  = $ SET flava.id = $id RETURN flava" ∧
    (⟨.default, by decide⟩ : Compiler).callEdge (.friends "since" ["since"]) (.updateBy .empty) =
      .ok g ∧
    g.query.text = "MATCH (start:User) WHERE start.x = $start_x " ++
      "MATCH (end:User) WHERE id(end) = $end_id MERGE (start)-[flava:Knows]-(end)" ∧
    g.matchPredicate.text = "" ∧ g.setList.text = "" := by
  obtain ⟨hnode, hedge, hcallNode, hcallEdge⟩ := query_sections
  let c : Compiler := ⟨.default, by decide⟩
  obtain ⟨f, hf, hftext, -⟩ := hnode c.nodes
    (.update .entity (.custom ⟨[⟨"", ""⟩]⟩) true ["name"]) .sparse "User" _ rfl rfl
  obtain ⟨g, hg, hgtext, hguarded⟩ := hedge c.edges (.update (.custom .empty))
    (.friends "since" ["since"]) "User" "User" "Knows" _ _ _ rfl rfl rfl rfl rfl rfl
  exact ⟨f, g, (hcallNode _ _ _).trans hf, hftext.trans (by decide),
    (hcallEdge _ _ _).trans hg, hgtext.trans (by decide),
    hguarded.matchPredicate.2 rfl, hguarded.setList.2 (by decide)⟩

end CypherFragments
