import CypherFragments.Proofs.Inline.Legible

/-!
# Legible statements

A statement is `Plain` if its parameters are names and nothing else in it contains a `$`. Its query
is legible then (`Statement.Plain.legible`): all sections that may follow a parameter start with a
blank, a comma or a bracket. `Statement.slots_query` lists the parameters of a statement in the
order in which they are written.
-/

set_option autoImplicit false

namespace CypherFragments

open Text

/-! ## Sections of a statement -/

def Condition.Plain (c : Condition) : Prop := Dollarless c.operand ∧ IsName c.param

def Binding.Plain (b : Binding) : Prop := Dollarless b.property ∧ IsName b.param

def Pattern.Plain (p : Pattern) : Prop := Dollarless p.var ∧ Dollarless p.label

structure NodeMatch.Plain (n : NodeMatch) : Prop where
  pattern : n.pattern.Plain
  conditions : ∀ c ∈ n.conditions, c.Plain

theorem Pattern.Plain.text {p : Pattern} (h : p.Plain) : Dollarless p.text :=
  (h.1.append (by decide)).append h.2

namespace Query

theorem dollarless_intercalate {sep : String} (hs : Dollarless sep) : ∀ {l : List String},
    (∀ s ∈ l, Dollarless s) → Dollarless (sep.intercalate l)
  | [], _ => by rw [String.intercalate_nil]; decide
  | [s], h => by rw [String.intercalate_singleton]; exact h s List.mem_cons_self
  | s :: t :: l, h => by
    rw [String.intercalate_cons_cons]
    exact ((h s List.mem_cons_self).append hs).append
      (dollarless_intercalate hs fun u hu => h u (List.mem_cons_of_mem _ hu))

theorem Section.single {s : String} {c : Char} {r : List Char} (hs : s.toList = c :: r)
    (hc : isNameChar c = false) (hd : Dollarless s) : Section (Query.ofText s) := by
  rw [← List.append_nil (Query.ofText s)]
  exact .ofText hs hc hd trivial

/-- A text with any other text after it. -/
theorem Section.led {s t : String} {c : Char} {r : List Char} (hs : s.toList = c :: r)
    (hc : isNameChar c = false) (hd : Dollarless s) (ht : Dollarless t) :
    Section (Query.ofText (s ++ t)) := by
  refine .single (r := r ++ t.toList) ?_ hc (hd.append ht)
  rw [String.toList_append, hs, List.cons_append]

theorem section_whereSection {cs : List Condition} (h : ∀ c ∈ cs, c.Plain) :
    Section (whereSection cs) := by
  unfold whereSection
  split
  · exact .nil
  · refine .ofText (by rfl) (by decide) (by decide) ?_
    exact .separated (by rfl) (by decide) (by decide) _ _ fun c hc =>
      ⟨(h c hc).1.append (by decide), (h c hc).2⟩

theorem section_setSection {var : String} {bs : List Binding} (hv : Dollarless var)
    (h : ∀ b ∈ bs, b.Plain) : Section (setSection var bs) := by
  unfold setSection
  split
  · exact .nil
  · refine .ofText (by rfl) (by decide) (by decide) ?_
    exact .separated (by rfl) (by decide) (by decide) _ _ fun b hb =>
      ⟨((hv.append (by decide)).append (h b hb).1).append (by decide), (h b hb).2⟩

theorem section_properties {bs : List Binding} (h : ∀ b ∈ bs, b.Plain) :
    Section (properties bs) := by
  unfold properties
  split
  · exact .nil
  · rw [List.append_assoc]
    refine .ofText (by rfl) (by decide) (by decide) (Legible.append ?_ ?_)
    · exact .separated (by rfl) (by decide) (by decide) _ _ fun b hb =>
        ⟨(h b hb).1.append (by decide), (h b hb).2⟩
    · exact .single (by rfl) (by decide) (by decide)

theorem section_returnSection {vars : List String} (returned : Bool)
    (h : ∀ v ∈ vars, Dollarless v) : Section (returnSection vars returned) := by
  unfold returnSection
  split
  · exact .led (by rfl) (by decide) (by decide) (dollarless_intercalate (by decide) h)
  · exact .nil

end Query

open Query

/-! ## Plain statements -/

namespace Statement

/-- Parameters are names, and no other part of the statement contains a `$`. -/
def Plain : Statement → Prop
  | nodePattern node bs => node.Plain ∧ ∀ b ∈ bs, b.Plain
  | matchNode node _ => node.Plain
  | createNode node bs _ => node.Plain ∧ ∀ b ∈ bs, b.Plain
  | updateNode node bs _ => node.Plain ∧ ∀ b ∈ bs, b.Plain
  | deleteNode var cs _ => Dollarless var ∧ ∀ c ∈ cs, c.Plain
  | createEdge ends edge _ bs _ =>
    ends.startNode.Plain ∧ ends.endNode.Plain ∧ edge.Plain ∧ ∀ b ∈ bs, b.Plain
  | updateEdge ends edge _ cs bs _ =>
    ends.startNode.Plain ∧ ends.endNode.Plain ∧ edge.Plain ∧
      (∀ c ∈ cs, c.Plain) ∧ ∀ b ∈ bs, b.Plain

end Statement

theorem Direction.dollarless_before (d : Direction) : Dollarless d.before := by
  cases d <;> decide

theorem Direction.dollarless_after (d : Direction) : Dollarless d.after := by
  cases d <;> decide

/-- The two endpoint matches before the rest of a relationship statement. -/
theorem Ends.legible_query {e : Ends} (hs : e.startNode.Plain) (ht : e.endNode.Plain) {q : Query}
    (hq : q.Legible) : Legible (e.query ++ q) := by
  have node {n : NodeMatch} (hn : n.Plain) {r : Query} (hr : Section r) :
      Legible (n.query ++ r) := by
    unfold NodeMatch.query
    rw [List.append_assoc]
    exact .ofText ((Dollarless.append (by decide) hn.pattern.text).append (by decide))
      ((section_whereSection hn.conditions).append hr).legible
  unfold Ends.query
  simp only [List.append_assoc]
  refine node hs (.ofText (by rfl) (by decide) (by decide) (node ht ?_))
  exact .ofText (by rfl) (by decide) (by decide) hq

theorem Ends.legible_join {e : Ends} {d : Direction} (hs : e.startNode.Plain)
    (ht : e.endNode.Plain) {inner q : Query} (hi : ∀ {r}, Section r → Legible (inner ++ r))
    (hq : Section q) : Legible (e.join d inner ++ q) := by
  unfold Ends.join
  simp only [List.append_assoc]
  refine .ofText ?_ (hi (.ofText (c := ']') (by simp only [String.toList_append]; rfl) (by decide)
    ?_ hq.legible))
  · exact (((Dollarless.append (by decide) hs.pattern.1).append (by decide)).append
      d.dollarless_before).append (by decide)
  · exact (((Dollarless.append (by decide) d.dollarless_after).append (by decide)).append
      ht.pattern.1).append (by decide)

theorem Pattern.legible_withProperties {p : Pattern} {bs : List Binding} (hp : p.Plain)
    (hb : ∀ b ∈ bs, b.Plain) {r : Query} (hr : Section r) : Legible (p.withProperties bs ++ r) := by
  unfold Pattern.withProperties
  rw [List.append_assoc]
  exact .ofText (hp.text.append (by decide)) ((section_properties hb).append hr).legible

namespace Statement

/-- **A plain statement is read back as it is composed.** -/
theorem Plain.legible {s : Statement} (h : s.Plain) : s.query.Legible := by
  cases s with
  | nodePattern node bs =>
    simp only [query, List.append_assoc]
    exact .ofText (by decide)
      (Pattern.legible_withProperties h.1 h.2 (.single (by rfl) (by decide) (by decide)))
  | matchNode node returned =>
    simp only [query, NodeMatch.query, List.append_assoc]
    refine .ofText ((Dollarless.append (by decide) h.pattern.text).append (by decide)) ?_
    exact ((section_whereSection h.conditions).append
      (section_returnSection _ (by simpa using h.pattern.1))).legible
  | createNode node bs returned =>
    simp only [query, List.append_assoc]
    refine .ofText (by decide) (Pattern.legible_withProperties h.1 h.2 ?_)
    exact (Section.single (by rfl) (by decide) (by decide)).append
      (section_returnSection _ (by simpa using h.1.1))
  | updateNode node bs returned =>
    simp only [query, List.append_assoc]
    refine .ofText ((Dollarless.append (by decide) h.1.pattern.text).append (by decide)) ?_
    exact ((section_whereSection h.1.conditions).append
      ((section_setSection h.1.pattern.1 h.2).append
        (section_returnSection _ (by simpa using h.1.pattern.1)))).legible
  | deleteNode var cs detach =>
    simp only [query, List.append_assoc]
    refine .ofText ((Dollarless.append (by decide) h.1).append (by decide)) ?_
    refine ((section_whereSection h.2).append ?_).legible
    cases detach with
    | true => exact .led (by rfl) (by decide) (by decide) h.1
    | false => exact .led (by rfl) (by decide) (by decide) h.1
  | createEdge ends edge direction bs returned =>
    obtain ⟨hs, ht, he, hb⟩ := h
    simp only [query, List.append_assoc]
    refine Ends.legible_query hs ht (.ofText (by decide) (Ends.legible_join hs ht ?_ ?_))
    · exact Pattern.legible_withProperties he hb
    · exact section_returnSection _ (by simp [Ends.vars, hs.pattern.1, ht.pattern.1, he.1])
  | updateEdge ends edge direction cs bs returned =>
    obtain ⟨hs, ht, he, hc, hb⟩ := h
    simp only [query, List.append_assoc]
    refine Ends.legible_query hs ht (.ofText (by decide) (Ends.legible_join hs ht ?_ ?_))
    · exact fun hr => .ofText he.text hr.legible
    · exact (section_whereSection hc).append ((section_setSection he.1 hb).append
        (section_returnSection _ (by simp [Ends.vars, hs.pattern.1, ht.pattern.1, he.1])))

/-! ## The parameters of a statement -/

/-- The parameters of the comparisons, in the order in which they are written. -/
def matchParams : Statement → List String
  | nodePattern _ _ | createNode _ _ _ => []
  | matchNode node _ | updateNode node _ _ => node.conditions.map (·.param)
  | deleteNode _ cs _ => cs.map (·.param)
  | createEdge ends _ _ _ _ =>
    ends.startNode.conditions.map (·.param) ++ ends.endNode.conditions.map (·.param)
  | updateEdge ends _ _ cs _ _ =>
    ends.startNode.conditions.map (·.param) ++ ends.endNode.conditions.map (·.param)
      ++ cs.map (·.param)

/-- The properties that are written, each with its parameter. -/
def bindings : Statement → List Binding
  | nodePattern _ bs | createNode _ bs _ | updateNode _ bs _ | createEdge _ _ _ bs _
  | updateEdge _ _ _ _ bs _ => bs
  | matchNode _ _ | deleteNode _ _ _ => []

end Statement

namespace Query

theorem slots_separated {α : Type} (sep : String) (lead param : α → String) : ∀ l : List α,
    slots (separated sep (l.map fun x => [.text (lead x), .slot (param x)])) = l.map param
  | [] => rfl
  | [_] => rfl
  | x :: y :: l => by
    have ih := slots_separated sep lead param (y :: l)
    unfold separated at ih ⊢
    rw [List.map_cons, List.map_cons, List.intercalate_cons_cons, slots_append, slots_append]
    rw [List.map_cons] at ih
    rw [ih]
    rfl

@[simp] theorem slots_whereSection (cs : List Condition) :
    (whereSection cs).slots = cs.map (·.param) := by
  cases cs with
  | nil => rfl
  | cons c cs => exact slots_separated _ _ _ (c :: cs)

@[simp] theorem slots_setSection (var : String) (bs : List Binding) :
    (setSection var bs).slots = bs.map (·.param) := by
  cases bs with
  | nil => rfl
  | cons b bs => exact slots_separated _ _ _ (b :: bs)

@[simp] theorem slots_properties (bs : List Binding) :
    (properties bs).slots = bs.map (·.param) := by
  cases bs with
  | nil => rfl
  | cons b bs =>
    refine (slots_append _ _).trans ?_
    rw [slots_ofText, List.append_nil]
    exact slots_separated _ _ _ (b :: bs)

@[simp] theorem slots_returnSection (vars : List String) (returned : Bool) :
    (returnSection vars returned).slots = [] := by
  cases returned <;> rfl

end Query

/-- The comparisons come first in every statement, then the properties. -/
theorem Statement.slots_query (s : Statement) :
    s.query.slots = s.matchParams ++ s.bindings.map (·.param) := by
  cases s <;>
    simp [query, NodeMatch.query, Ends.query, Ends.join, Pattern.withProperties, matchParams,
      bindings]

end CypherFragments
