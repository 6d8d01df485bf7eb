import CypherFragments.Proofs.Unambiguous.Part

/-!
# Parts of a statement

The parts of a statement are `Spelled` if their names are names and their operands have no blanks.
Each of them splits off in front of what may follow it: comparisons and properties, whose lists have
leads and separators of their own, patterns, matched nodes, and the arrow of a relationship.
-/

set_option autoImplicit false

namespace CypherFragments

open Text Query

attribute [ext] Condition Binding Pattern NodeMatch Ends

/-! ## Comparisons and properties -/

structure Condition.Spelled (c : Condition) : Prop where
  operand : Spaceless c.operand
  param : IsName c.param

structure Binding.Spelled (b : Binding) : Prop where
  property : IsName b.property
  param : IsName b.param

/-- `operand = $param` -/
def Condition.query (c : Condition) : Query := [.text (c.operand ++ " = "), .slot c.param]

/-- `property: $param` -/
def Binding.query (b : Binding) : Query := [.text (b.property ++ ": "), .slot b.param]

/-- `var.property = $param` -/
def Binding.change (var : String) (b : Binding) : Query :=
  [.text (var ++ "." ++ b.property ++ " = "), .slot b.param]

theorem splits_condition : Splits Condition.Spelled EndsName fun c => c.query.chars := by
  intro c d r t hc hd hr ht h
  simp only [Condition.query, chars_led, String.toList_append, List.append_assoc,
    List.cons_append] at h
  obtain ⟨ho, hparam⟩ := splits_spaceless hc.operand hd.operand (by rfl) (by rfl) h
  obtain ⟨hp, hrest⟩ := splits_name hc.param hd.param hr ht
    (List.cons.inj (List.append_cancel_left hparam)).2
  exact ⟨Condition.ext ho hp, hrest⟩

/-- A property and its parameter, with the same text between them. -/
theorem splits_named (mid : String) (hm : Breaks mid) :
    Splits Binding.Spelled EndsName
      fun b => b.property.toList ++ (mid.toList ++ '$' :: b.param.toList) := by
  intro b c r t hb hc hr ht h
  simp only [List.append_assoc, List.cons_append] at h
  obtain ⟨ho, hparam⟩ := splits_name hb.property hc.property (hm.endsName _) (hm.endsName _) h
  obtain ⟨hp, hrest⟩ := splits_name hb.param hc.param hr ht
    (List.cons.inj (List.append_cancel_left hparam)).2
  exact ⟨Binding.ext ho hp, hrest⟩

theorem splits_binding : Splits Binding.Spelled EndsName fun b => b.query.chars := by
  intro b c r t hb hc hr ht h
  simp only [Binding.query, chars_led, String.toList_append, List.append_assoc] at h
  exact splits_named ": " (by decide) hb hc hr ht (by simpa using h)

theorem splits_change (var : String) :
    Splits Binding.Spelled EndsName fun b => (b.change var).chars := by
  intro b c r t hb hc hr ht h
  simp only [Binding.change, chars_led, String.toList_append, List.append_assoc] at h
  have hname := List.append_cancel_left (List.append_cancel_left h)
  exact splits_named " = " (by decide) hb hc hr ht (by simpa using hname)

theorem chars_whereSection (cs : List Condition) :
    (whereSection cs).chars = (listed " WHERE " " AND " "" Condition.query cs).chars := by
  cases cs with
  | nil => rfl
  | cons c cs =>
    have h : conjunction (c :: cs) = separated " AND " ((c :: cs).map Condition.query) := rfl
    simp [whereSection, listed, h]

theorem chars_setSection (var : String) (bs : List Binding) :
    (setSection var bs).chars = (listed " SET " ", " "" (Binding.change var) bs).chars := by
  cases bs with
  | nil => rfl
  | cons b bs =>
    have h : assignments var (b :: bs) =
      separated ", " ((b :: bs).map (Binding.change var)) := rfl
    simp [setSection, listed, h]

theorem splits_whereSection :
    Splits (fun cs => ∀ c ∈ cs, c.Spelled) (Follows " WHERE " " AND " "")
      fun cs => (whereSection cs).chars := by
  simp only [chars_whereSection]
  exact splits_listed (by decide) splits_condition

theorem splits_setSection (var : String) :
    Splits (fun bs => ∀ b ∈ bs, b.Spelled) (Follows " SET " ", " "")
      fun bs => (setSection var bs).chars := by
  simp only [chars_setSection]
  exact splits_listed (by decide) (splits_change var)

theorem splits_properties :
    Splits (fun bs => ∀ b ∈ bs, b.Spelled) (Follows "\x7b" ", " "\x7d")
      fun bs => (properties bs).chars :=
  splits_listed (by decide) splits_binding

/-! ## Patterns -/

structure Pattern.Spelled (p : Pattern) : Prop where
  var : IsName p.var
  label : IsName p.label

structure NodeMatch.Spelled (n : NodeMatch) : Prop where
  pattern : n.pattern.Spelled
  conditions : ∀ c ∈ n.conditions, c.Spelled

structure Ends.Spelled (e : Ends) : Prop where
  startNode : e.startNode.Spelled
  endNode : e.endNode.Spelled

theorem splits_pattern : Splits Pattern.Spelled EndsName fun p => p.text.toList := by
  intro p q r t hp hq hr ht h
  simp only [Pattern.text, String.toList_append, List.append_assoc] at h
  have hm : Breaks ":" := by decide
  obtain ⟨hv, hlabel⟩ := splits_name hp.var hq.var (hm.endsName _) (hm.endsName _) h
  obtain ⟨hl, hrest⟩ := splits_name hp.label hq.label hr ht (List.append_cancel_left hlabel)
  exact ⟨Pattern.ext hv hl, hrest⟩

/-- The text starts by closing the pattern before it. -/
def Closes (r : List Char) : Prop := r.head? = some ')' ∨ r.head? = some ']'

theorem Closes.follows {r : List Char} (h : Closes r) : Follows "\x7b" ", " "\x7d" r where
  absent hp := by
    obtain ⟨t, rfl⟩ := hp
    rcases h with h | h <;> exact absurd (Option.some.inj h) (by decide)
  last := by simp
  endsName := .cons (by decide) r

theorem splits_withProperties :
    Splits (fun x : Pattern × List Binding => x.1.Spelled ∧ ∀ b ∈ x.2, b.Spelled) Closes
      fun x => (x.1.withProperties x.2).chars := by
  rintro ⟨p, bs⟩ ⟨q, bs'⟩ r t ⟨hp, hb⟩ ⟨hq, hb'⟩ hr ht h
  simp only [Pattern.withProperties, chars_append, chars_ofText, String.toList_append,
    List.append_assoc] at h
  have hm : Breaks " " := by decide
  obtain ⟨rfl, hprops⟩ := splits_pattern hp hq (hm.endsName _) (hm.endsName _) h
  obtain ⟨rfl, hrest⟩ := splits_properties hb hb' hr.follows ht.follows
    (List.append_cancel_left hprops)
  exact ⟨rfl, hrest⟩

theorem splits_nodeMatch :
    Splits NodeMatch.Spelled (Follows " WHERE " " AND " "") fun n => n.query.chars := by
  intro n m r t hn hm hr ht h
  simp only [NodeMatch.query, chars_append, chars_ofText, String.toList_append,
    List.append_assoc] at h
  have hb : Breaks ")" := by decide
  obtain ⟨hp, hwhere⟩ := splits_pattern hn.pattern hm.pattern (hb.endsName _) (hb.endsName _)
    (List.append_cancel_left h)
  obtain ⟨hc, hrest⟩ := splits_whereSection hn.conditions hm.conditions hr ht
    (List.append_cancel_left hwhere)
  exact ⟨NodeMatch.ext hp hc, hrest⟩

/-- Another match may follow. -/
theorem follows_match (n : NodeMatch) (r : List Char) :
    Follows " WHERE " " AND " "" (" ".toList ++ (n.query.chars ++ r)) := by
  have h : " ".toList ++ (n.query.chars ++ r) = " MATCH (".toList ++ (n.pattern.text.toList ++
      (")".toList ++ ((whereSection n.conditions).chars ++ r))) := by
    simp [NodeMatch.query]
  rw [h]
  exact .text (by decide) (by decide) (by decide) _

/-- The two matches of a relationship statement, in front of what is done with them. -/
theorem splits_ends :
    Splits Ends.Spelled (fun r => Follows " WHERE " " AND " "" (" ".toList ++ r))
      fun e => e.query.chars := by
  intro e e' r t he he' hr ht h
  simp only [Ends.query, chars_append, chars_ofText, List.append_assoc] at h
  obtain ⟨hs, hend⟩ := splits_nodeMatch he.startNode he'.startNode (follows_match _ _)
    (follows_match _ _) h
  obtain ⟨ht, hrest⟩ := splits_nodeMatch he.endNode he'.endNode hr ht
    (List.append_cancel_left hend)
  exact ⟨Ends.ext hs ht, List.append_cancel_left hrest⟩

/-! ## Relationships -/

namespace Direction

theorem before_bracket {d d' : Direction} {r t : List Char}
    (h : d.before.toList ++ ("[".toList ++ r) = d'.before.toList ++ ("[".toList ++ t)) :
    d.before = d'.before ∧ r = t := by
  cases d <;> cases d' <;> simp_all [before]

theorem after_paren {d d' : Direction} {r t : List Char}
    (h : d.after.toList ++ ("(".toList ++ r) = d'.after.toList ++ ("(".toList ++ t)) :
    d.after = d'.after ∧ r = t := by
  cases d <;> cases d' <;> simp_all [after]

theorem eq_of_marks {d d' : Direction} (hb : d.before = d'.before) (ha : d.after = d'.after) :
    d = d' := by
  revert hb ha
  cases d <;> cases d' <;> decide

end Direction

/-- The direction shows in the marks around the brackets. -/
theorem splits_join {α : Type} {ok : α → Prop} {inner : α → Query} (e : Ends)
    (hi : Splits ok (fun r => r.head? = some ']') fun x => (inner x).chars) :
    Splits (fun x : Direction × α => ok x.2) (fun _ => True)
      fun x => (e.join x.1 (inner x.2)).chars := by
  rintro ⟨d, x⟩ ⟨d', y⟩ r t hx hy - - h
  simp only [Ends.join, chars_append, chars_ofText, String.toList_append, List.append_assoc] at h
  have hopen := List.append_cancel_left (List.append_cancel_left (List.append_cancel_left h))
  obtain ⟨hb, hinner⟩ := Direction.before_bracket hopen
  obtain ⟨rfl, hclose⟩ := hi hx hy (by rfl) (by rfl) hinner
  obtain ⟨ha, hend⟩ := Direction.after_paren (List.append_cancel_left hclose)
  obtain rfl := Direction.eq_of_marks hb ha
  exact ⟨rfl, List.append_cancel_left (List.append_cancel_left hend)⟩

end CypherFragments
