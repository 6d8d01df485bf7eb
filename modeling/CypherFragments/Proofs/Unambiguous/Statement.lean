import CypherFragments.Proofs.Unambiguous.Section

/-!
# Unambiguous statements

A spelled statement says all it says in its text: no two of them, of whatever kind, have the same
text (`Statement.text_injective`). The opening words and the character after the first variable tell
most kinds apart (`Statement.shape_eq`); within a kind the parts are split off from the left.
-/

set_option autoImplicit false

namespace CypherFragments

open Text Query

namespace Statement

/-- All names are names, and no operand has a blank. -/
def Spelled : Statement → Prop
  | nodePattern node bs => node.Spelled ∧ ∀ b ∈ bs, b.Spelled
  | matchNode node _ => node.Spelled
  | createNode node bs _ => node.Spelled ∧ ∀ b ∈ bs, b.Spelled
  | updateNode node bs _ => node.Spelled ∧ ∀ b ∈ bs, b.Spelled
  | deleteNode v cs _ => IsName v ∧ ∀ c ∈ cs, c.Spelled
  | createEdge ends edge _ bs _ => ends.Spelled ∧ edge.Spelled ∧ ∀ b ∈ bs, b.Spelled
  | updateEdge ends edge _ cs bs _ =>
    ends.Spelled ∧ edge.Spelled ∧ (∀ c ∈ cs, c.Spelled) ∧ ∀ b ∈ bs, b.Spelled

/-! ## Kinds of statements -/

/-- How a statement begins. -/
inductive Opening
  | parenthesis
  | found
  | created
  | merged
  deriving DecidableEq

def Opening.text : Opening → String
  | parenthesis => "("
  | found => "MATCH ("
  | created => "CREATE ("
  | merged => "MERGE ("

theorem Opening.apart {a b : Opening} (h : a ≠ b) : Apart a.text b.text := by
  revert h
  cases a <;> cases b <;> decide

/-- How a statement begins, and whether its first variable has a label. -/
def shape : Statement → Opening × Bool
  | nodePattern _ _ => (.parenthesis, true)
  | createNode _ _ _ => (.created, true)
  | updateNode _ _ _ => (.merged, true)
  | deleteNode _ _ _ => (.found, false)
  | matchNode _ _ | createEdge _ _ _ _ _ | updateEdge _ _ _ _ _ _ => (.found, true)

def firstVar : Statement → String
  | nodePattern node _ | createNode node _ _ => node.var
  | matchNode node _ | updateNode node _ _ => node.pattern.var
  | deleteNode v _ _ => v
  | createEdge ends _ _ _ _ | updateEdge ends _ _ _ _ _ => ends.startNode.pattern.var

/-- What stands after the first variable. -/
def mark (labelled : Bool) : String := if labelled then ":" else ")"

theorem exists_chars (s : Statement) : ∃ rest, s.query.chars =
    s.shape.1.text.toList ++ (s.firstVar.toList ++ ((mark s.shape.2).toList ++ rest)) := by
  cases s with
  | nodePattern | createNode =>
    simp only [query, Pattern.withProperties, Pattern.text, chars_append, chars_ofText,
      String.toList_append, List.append_assoc]
    exact ⟨_, rfl⟩
  | matchNode | createEdge | updateEdge =>
    simp only [query, Ends.query, NodeMatch.query, Pattern.text, chars_append, chars_ofText,
      String.toList_append, List.append_assoc]
    exact ⟨_, rfl⟩
  | updateNode | deleteNode =>
    simp only [query, Pattern.text, chars_append, chars_ofText, String.toList_append,
      List.append_assoc]
    exact ⟨_, rfl⟩

theorem Spelled.firstVar {s : Statement} (h : s.Spelled) : IsName s.firstVar := by
  cases s with
  | nodePattern | createNode => exact h.1.var
  | matchNode => exact h.pattern.var
  | updateNode => exact h.1.pattern.var
  | deleteNode => exact h.1
  | createEdge | updateEdge => exact h.1.startNode.pattern.var

theorem breaks_mark (labelled : Bool) : Breaks (mark labelled) := by
  cases labelled <;> decide

/-- The shape of a statement shows in its text. -/
theorem shape_eq {s s' : Statement} (hs : s.Spelled) (hs' : s'.Spelled)
    (h : s.query.chars = s'.query.chars) : s.shape = s'.shape := by
  obtain ⟨r, hr⟩ := s.exists_chars
  obtain ⟨t, ht⟩ := s'.exists_chars
  rw [hr, ht] at h
  have hopening : s.shape.1 = s'.shape.1 :=
    Decidable.byContradiction fun hne => (Opening.apart hne).append_ne _ _ h
  rw [hopening] at h
  obtain ⟨-, hmark⟩ := splits_name hs.firstVar hs'.firstVar ((breaks_mark _).endsName _)
    ((breaks_mark _).endsName _) (List.append_cancel_left h)
  have hlabelled : s.shape.2 = s'.shape.2 := by
    cases hl : s.shape.2 <;> cases hl' : s'.shape.2 <;> simp_all [mark]
  exact Prod.ext hopening hlabelled

/-! ## The ends of statements -/

theorem returned_inj {vars : List String} {b b' : Bool}
    (h : (returnSection vars b).chars = (returnSection vars b').chars) : b = b' := by
  cases b <;> cases b' <;> simp_all [returnSection]

theorem follows_returned {lead sep : String} (hl : Apart lead " RETURN ")
    (hs : Apart sep " RETURN ") (vars : List String) (returned : Bool) :
    Follows lead sep "" (returnSection vars returned).chars := by
  cases returned with
  | false => exact .nil hl.ne_empty hs.ne_empty
  | true =>
    simp only [returnSection, if_true, chars_ofText, String.toList_append]
    exact .text (by decide) hl hs _

/-- What a statement says after the pattern that it merges. -/
theorem changed_inj {v : String} {vars : List String} {cs cs' : List Condition}
    {bs bs' : List Binding} {b b' : Bool} (hc : ∀ c ∈ cs, c.Spelled) (hc' : ∀ c ∈ cs', c.Spelled)
    (hb : ∀ b ∈ bs, b.Spelled) (hb' : ∀ b ∈ bs', b.Spelled)
    (h : (whereSection cs).chars ++ ((setSection v bs).chars ++ (returnSection vars b).chars) =
      (whereSection cs').chars ++ ((setSection v bs').chars ++ (returnSection vars b').chars)) :
    cs = cs' ∧ bs = bs' ∧ b = b' := by
  have next (bs : List Binding) (b : Bool) : Follows " WHERE " " AND " ""
      ((setSection v bs).chars ++ (returnSection vars b).chars) := by
    rw [chars_setSection]
    exact .listed (by decide) (by decide) (by decide)
      (follows_returned (by decide) (by decide) vars b) bs
  obtain ⟨rfl, hset⟩ := splits_whereSection hc hc' (next bs b) (next bs' b') h
  obtain ⟨rfl, hreturn⟩ := splits_setSection v hb hb'
    (follows_returned (by decide) (by decide) vars b)
    (follows_returned (by decide) (by decide) vars b') hset
  exact ⟨rfl, rfl, returned_inj hreturn⟩

/-- What a statement says after the node that it deletes. -/
theorem deleted_inj {v : List Char} {cs cs' : List Condition} {b b' : Bool}
    (hc : ∀ c ∈ cs, c.Spelled) (hc' : ∀ c ∈ cs', c.Spelled)
    (h : (whereSection cs).chars ++ ((if b then " DETACH DELETE " else " DELETE ").toList ++ v) =
      (whereSection cs').chars ++
        ((if b' then " DETACH DELETE " else " DELETE ").toList ++ v)) :
    cs = cs' ∧ b = b' := by
  have next (b : Bool) : Follows " WHERE " " AND " ""
      ((if b then " DETACH DELETE " else " DELETE ").toList ++ v) := by
    cases b with
    | false => exact .text (by decide) (by decide) (by decide) _
    | true => exact .text (by decide) (by decide) (by decide) _
  obtain ⟨rfl, hdelete⟩ := splits_whereSection hc hc' (next b) (next b') h
  refine ⟨rfl, ?_⟩
  cases b <;> cases b' <;> simp_all

/-- What a statement says of the relationship that it creates. -/
theorem created_inj {e : Ends} {p p' : Pattern} {d d' : Direction} {bs bs' : List Binding}
    {b b' : Bool} (hp : p.Spelled) (hp' : p'.Spelled) (hb : ∀ b ∈ bs, b.Spelled)
    (hb' : ∀ b ∈ bs', b.Spelled)
    (h : (e.join d (p.withProperties bs)).chars ++ (returnSection (e.vars p) b).chars =
      (e.join d' (p'.withProperties bs')).chars ++ (returnSection (e.vars p') b').chars) :
    p = p' ∧ d = d' ∧ bs = bs' ∧ b = b' := by
  have hi : Splits (fun x : Pattern × List Binding => x.1.Spelled ∧ ∀ b ∈ x.2, b.Spelled)
      (fun r => r.head? = some ']') fun x => (x.1.withProperties x.2).chars :=
    fun _ _ _ _ hx hy hr ht => splits_withProperties hx hy (.inr hr) (.inr ht)
  obtain ⟨hx, hreturn⟩ := splits_join e hi (x := (d, p, bs)) (y := (d', p', bs')) ⟨hp, hb⟩
    ⟨hp', hb'⟩ trivial trivial h
  cases hx
  exact ⟨rfl, rfl, rfl, returned_inj hreturn⟩

/-- The relationship that a statement merges. -/
theorem merged_inj {e : Ends} {p p' : Pattern} {d d' : Direction} {r t : List Char}
    (hp : p.Spelled) (hp' : p'.Spelled)
    (h : (e.join d (ofText p.text)).chars ++ r = (e.join d' (ofText p'.text)).chars ++ t) :
    p = p' ∧ d = d' ∧ r = t := by
  have hi : Splits Pattern.Spelled (fun r => r.head? = some ']')
      fun p => (ofText p.text).chars := by
    intro p q r t hp hq hr ht h
    have ends {r : List Char} (hr : r.head? = some ']') : EndsName r := by
      intro c hc
      rw [hr] at hc
      obtain rfl := Option.some.inj hc
      decide
    simp only [chars_ofText] at h
    exact splits_pattern hp hq (ends hr) (ends ht) h
  obtain ⟨hx, hrest⟩ := splits_join e hi (x := (d, p)) (y := (d', p')) hp hp' trivial trivial h
  cases hx
  exact ⟨rfl, rfl, hrest⟩

theorem follows_create (r : List Char) :
    Follows " WHERE " " AND " "" (" ".toList ++ ("CREATE ".toList ++ r)) :=
  .text (s := " CREATE ") (by decide) (by decide) (by decide) r

theorem follows_merge (r : List Char) :
    Follows " WHERE " " AND " "" (" ".toList ++ ("MERGE ".toList ++ r)) :=
  .text (s := " MERGE ") (by decide) (by decide) (by decide) r

/-! ## One kind of statement -/

section
variable {node node' edge edge' : Pattern} {n n' : NodeMatch} {ends ends' : Ends} {v v' : String}
  {d d' : Direction} {cs cs' : List Condition} {bs bs' : List Binding} {b b' : Bool}

theorem nodePattern_inj (hs : (nodePattern node bs).Spelled) (hs' : (nodePattern node' bs').Spelled)
    (h : (nodePattern node bs).query.chars = (nodePattern node' bs').query.chars) :
    nodePattern node bs = nodePattern node' bs' := by
  simp only [query, chars_append, List.append_assoc] at h
  obtain ⟨hx, -⟩ := splits_withProperties (x := (node, bs)) (y := (node', bs')) hs hs'
    (.inl (by rfl)) (.inl (by rfl)) (List.append_cancel_left h)
  cases hx
  rfl

theorem matchNode_inj (hs : (matchNode n b).Spelled) (hs' : (matchNode n' b').Spelled)
    (h : (matchNode n b).query.chars = (matchNode n' b').query.chars) :
    matchNode n b = matchNode n' b' := by
  simp only [query, chars_append] at h
  obtain ⟨rfl, hreturn⟩ := splits_nodeMatch hs hs'
    (follows_returned (by decide) (by decide) _ b)
    (follows_returned (by decide) (by decide) _ b') h
  rw [returned_inj hreturn]

theorem createNode_inj (hs : (createNode node bs b).Spelled)
    (hs' : (createNode node' bs' b').Spelled)
    (h : (createNode node bs b).query.chars = (createNode node' bs' b').query.chars) :
    createNode node bs b = createNode node' bs' b' := by
  simp only [query, chars_append, List.append_assoc] at h
  obtain ⟨hx, hrest⟩ := splits_withProperties (x := (node, bs)) (y := (node', bs')) hs hs'
    (.inl (by rfl)) (.inl (by rfl)) (List.append_cancel_left h)
  cases hx
  rw [returned_inj (List.append_cancel_left hrest)]

theorem updateNode_inj (hs : (updateNode n bs b).Spelled) (hs' : (updateNode n' bs' b').Spelled)
    (h : (updateNode n bs b).query.chars = (updateNode n' bs' b').query.chars) :
    updateNode n bs b = updateNode n' bs' b' := by
  obtain ⟨hn, hb⟩ := hs
  obtain ⟨hn', hb'⟩ := hs'
  simp only [query, chars_append, chars_ofText, String.toList_append, List.append_assoc] at h
  have hm : Breaks ")" := by decide
  obtain ⟨hp, hchanged⟩ := splits_pattern hn.pattern hn'.pattern (hm.endsName _) (hm.endsName _)
    (List.append_cancel_left h)
  rw [hp] at hchanged
  obtain ⟨hc, rfl, rfl⟩ := changed_inj hn.conditions hn'.conditions hb hb'
    (List.append_cancel_left hchanged)
  rw [NodeMatch.ext hp hc]

theorem deleteNode_inj (hs : (deleteNode v cs b).Spelled) (hs' : (deleteNode v' cs' b').Spelled)
    (h : (deleteNode v cs b).query.chars = (deleteNode v' cs' b').query.chars) :
    deleteNode v cs b = deleteNode v' cs' b' := by
  simp only [query, chars_append, chars_ofText, String.toList_append, List.append_assoc] at h
  have hm : Breaks ")" := by decide
  obtain ⟨rfl, hdeleted⟩ := splits_name hs.1 hs'.1 (hm.endsName _) (hm.endsName _)
    (List.append_cancel_left h)
  obtain ⟨rfl, rfl⟩ := deleted_inj hs.2 hs'.2 (List.append_cancel_left hdeleted)
  rfl

theorem createEdge_inj (hs : (createEdge ends edge d bs b).Spelled)
    (hs' : (createEdge ends' edge' d' bs' b').Spelled)
    (h : (createEdge ends edge d bs b).query.chars =
      (createEdge ends' edge' d' bs' b').query.chars) :
    createEdge ends edge d bs b = createEdge ends' edge' d' bs' b' := by
  obtain ⟨he, hp, hb⟩ := hs
  obtain ⟨he', hp', hb'⟩ := hs'
  simp only [query, chars_append, chars_ofText, List.append_assoc] at h
  obtain ⟨rfl, hcreated⟩ := splits_ends he he' (follows_create _) (follows_create _) h
  obtain ⟨rfl, rfl, rfl, rfl⟩ := created_inj hp hp' hb hb' (List.append_cancel_left hcreated)
  rfl

theorem updateEdge_inj (hs : (updateEdge ends edge d cs bs b).Spelled)
    (hs' : (updateEdge ends' edge' d' cs' bs' b').Spelled)
    (h : (updateEdge ends edge d cs bs b).query.chars =
      (updateEdge ends' edge' d' cs' bs' b').query.chars) :
    updateEdge ends edge d cs bs b = updateEdge ends' edge' d' cs' bs' b' := by
  obtain ⟨he, hp, hc, hb⟩ := hs
  obtain ⟨he', hp', hc', hb'⟩ := hs'
  simp only [query, chars_append, chars_ofText, List.append_assoc] at h
  obtain ⟨rfl, hmerged⟩ := splits_ends he he' (follows_merge _) (follows_merge _) h
  obtain ⟨rfl, rfl, hchanged⟩ := merged_inj hp hp' (List.append_cancel_left hmerged)
  obtain ⟨rfl, rfl, rfl⟩ := changed_inj hc hc' hb hb' hchanged
  rfl

/-! ## Two kinds of one shape -/

/-- A match of a single node does not go on as that of two ends. -/
theorem found_ne_ends {vars : List String} (hn : n.Spelled) (he : ends.Spelled) {r : List Char} :
    n.query.chars ++ (returnSection vars b).chars ≠ ends.query.chars ++ r := by
  intro h
  simp only [Ends.query, chars_append, chars_ofText, List.append_assoc] at h
  obtain ⟨-, hrest⟩ := splits_nodeMatch hn he.startNode
    (follows_returned (by decide) (by decide) vars b) (follows_match _ _) h
  cases b <;> simp [returnSection, NodeMatch.query] at hrest

theorem matchNode_ne_createEdge (hs : (matchNode n b).Spelled)
    (hs' : (createEdge ends edge d bs b').Spelled) :
    (matchNode n b).query.chars ≠ (createEdge ends edge d bs b').query.chars := by
  simp only [query, chars_append, List.append_assoc]
  exact found_ne_ends hs hs'.1

theorem matchNode_ne_updateEdge (hs : (matchNode n b).Spelled)
    (hs' : (updateEdge ends edge d cs bs b').Spelled) :
    (matchNode n b).query.chars ≠ (updateEdge ends edge d cs bs b').query.chars := by
  simp only [query, chars_append, List.append_assoc]
  exact found_ne_ends hs hs'.1

/-- What is created between two ends is not merged between them. -/
theorem createEdge_ne_updateEdge (hs : (createEdge ends edge d bs b).Spelled)
    (hs' : (updateEdge ends' edge' d' cs bs' b').Spelled) :
    (createEdge ends edge d bs b).query.chars ≠
      (updateEdge ends' edge' d' cs bs' b').query.chars := by
  intro h
  simp only [query, chars_append, chars_ofText, List.append_assoc] at h
  obtain ⟨-, hrest⟩ := splits_ends hs.1 hs'.1 (follows_create _) (follows_merge _) h
  exact Apart.append_ne (by decide) _ _ hrest

end

/-- **The text of a statement says what the statement says.** -/
theorem text_injective {s s' : Statement} (hs : s.Spelled) (hs' : s'.Spelled)
    (h : s.query.text = s'.query.text) : s = s' := by
  have hchars : s.query.chars = s'.query.chars := congrArg String.toList h
  have hshape := shape_eq hs hs' hchars
  cases s with
  | nodePattern =>
    cases s' with
    | nodePattern => exact nodePattern_inj hs hs' hchars
    | _ => cases hshape
  | matchNode =>
    cases s' with
    | matchNode => exact matchNode_inj hs hs' hchars
    | createEdge => exact absurd hchars (matchNode_ne_createEdge hs hs')
    | updateEdge => exact absurd hchars (matchNode_ne_updateEdge hs hs')
    | _ => cases hshape
  | createNode =>
    cases s' with
    | createNode => exact createNode_inj hs hs' hchars
    | _ => cases hshape
  | updateNode =>
    cases s' with
    | updateNode => exact updateNode_inj hs hs' hchars
    | _ => cases hshape
  | deleteNode =>
    cases s' with
    | deleteNode => exact deleteNode_inj hs hs' hchars
    | _ => cases hshape
  | createEdge =>
    cases s' with
    | createEdge => exact createEdge_inj hs hs' hchars
    | updateEdge => exact absurd hchars (createEdge_ne_updateEdge hs hs')
    | matchNode => exact absurd hchars.symm (matchNode_ne_createEdge hs' hs)
    | _ => cases hshape
  | updateEdge =>
    cases s' with
    | updateEdge => exact updateEdge_inj hs hs' hchars
    | createEdge => exact absurd hchars.symm (createEdge_ne_updateEdge hs' hs)
    | matchNode => exact absurd hchars.symm (matchNode_ne_updateEdge hs' hs)
    | _ => cases hshape

end Statement

end CypherFragments
