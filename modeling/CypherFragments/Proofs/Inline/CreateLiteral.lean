import CypherFragments.Proofs.Inline.Composition
import CypherFragments.Proofs.Literal.ReadBack

/-!
# Create literals and literals of maps

The properties of a fragment and the members of a map are both written in braces. A map puts a key
that is no word between backticks, the properties hold every key as it is.

* `Query.inline_properties_of_words`: with words for keys, inlining the properties gives the map.
* `Query.backticks_fill_scan`: inlining neither adds nor takes a backtick at the front of a text.
* `Query.inline_properties_iff`: with any other key it does not give the map.
* `Compiler.inline_createLiteral_iff`: the create literal of a fragment, inlined.
-/

set_option autoImplicit false

namespace CypherFragments

open Text

theorem Text.isName_of_isWord {s : String} (h : isWord s.toList = true) : IsName s := by
  refine ⟨fun he => ?_, Literal.isNameChar_of_isWord h⟩
  rw [he] at h
  cases h

namespace Query

/-- The properties that hold the members of a map, each with its parameter. -/
def memberBindings (paramPrefix : String) (members : List (String × Json)) : List Binding :=
  members.map fun p => ⟨p.1, paramPrefix ++ p.1⟩

/-- Each member is the value of its parameter. -/
def HoldsAll (params : Params) (paramPrefix : String) (members : List (String × Json)) : Prop :=
  ∀ p ∈ members, params.get? (paramPrefix ++ p.1) = some p.2

/-- What stands between the braces. -/
def memberList (paramPrefix : String) (members : List (String × Json)) : Query :=
  separated ", " (members.map fun p => [.text (p.1 ++ ": "), .slot (paramPrefix ++ p.1)])

theorem memberList_cons_cons (paramPrefix : String) (p q : String × Json)
    (l : List (String × Json)) :
    memberList paramPrefix (p :: q :: l) =
      [.text (p.1 ++ ": "), .slot (paramPrefix ++ p.1), .text ", "]
        ++ memberList paramPrefix (q :: l) := by
  unfold memberList separated
  rw [List.map_cons, List.map_cons, List.intercalate_cons_cons]
  rfl

theorem properties_memberBindings {paramPrefix : String} {members : List (String × Json)}
    (hne : members ≠ []) : properties (memberBindings paramPrefix members) =
      ofText "\x7b" ++ memberList paramPrefix members ++ ofText "\x7d" := by
  have he : (memberBindings paramPrefix members).isEmpty = false := by
    rw [List.isEmpty_eq_false_iff]
    exact fun h => hne (List.map_eq_nil_iff.1 h)
  unfold properties memberList
  rw [he, memberBindings, List.map_map]
  rfl

variable {params : Params} {paramPrefix : String}

theorem literal_of_get? {p : String} {v : Json} (h : params.get? p = some v) :
    params.literal p = Literal.text v := by
  simp [Params.literal, h]

/-! ## Words as keys -/

theorem render_memberList : ∀ {members : List (String × Json)},
    HoldsAll params paramPrefix members → (∀ p ∈ members, isWord p.1.toList = true) →
    ((memberList paramPrefix members).render params.literal).toList =
      Literal.writeMembers members
  | [], _, _ => rfl
  | [(k, v)], hv, hw => by
    have hl := literal_of_get? (hv _ List.mem_cons_self)
    have hk : Literal.writeKey k = k.toList := if_pos (hw _ List.mem_cons_self)
    simp only [memberList, separated, List.map_cons, List.map_nil, List.intercalate_singleton,
      render_text, render_slot, hl, Literal.writeMembers, hk]
    simp [render, Literal.text]
  | (k, v) :: q :: l, hv, hw => by
    have ih := render_memberList (fun p hp => hv p (List.mem_cons_of_mem _ hp))
      (fun p hp => hw p (List.mem_cons_of_mem _ hp))
    have hl := literal_of_get? (hv _ List.mem_cons_self)
    have hk : Literal.writeKey k = k.toList := if_pos (hw _ List.mem_cons_self)
    rw [memberList_cons_cons, render_append, String.toList_append, ih,
      Literal.writeMembers_cons, hk]
    simp [render, hl, Literal.text]

theorem inline_properties_of_words (hp : ∀ c ∈ paramPrefix.toList, isNameChar c = true)
    {members : List (String × Json)} (hne : members ≠ [])
    (hv : HoldsAll params paramPrefix members) (hw : ∀ p ∈ members, isWord p.1.toList = true) :
    inline (properties (memberBindings paramPrefix members)).text params =
      .ok (Literal.text (.object members)) := by
  have hplain : ∀ b ∈ memberBindings paramPrefix members, b.Plain := by
    intro b hb
    obtain ⟨p, hm, rfl⟩ := List.mem_map.1 hb
    have hn := isName_of_isWord (hw p hm)
    exact ⟨dollarless_of_nameChars hn.2, hn.prefixed hp⟩
  have hslots : (properties (memberBindings paramPrefix members)).slots.find?
      (fun p => (params.get? p).isNone) = none := by
    rw [List.find?_eq_none, slots_properties]
    intro k hk
    obtain ⟨b, hb, rfl⟩ := List.mem_map.1 hk
    obtain ⟨p, hm, rfl⟩ := List.mem_map.1 hb
    simp [hv p hm]
  rw [inline, ofString, fill_scan_text _ (section_properties hplain).legible, fill_eq, hslots,
    properties_memberBindings hne]
  refine congrArg Except.ok (String.toList_injective ?_)
  rw [render_append, render_append, String.toList_append, String.toList_append,
    render_memberList hv hw]
  simp [render, ofText, Literal.text, Literal.write]

/-! ## Backticks -/

/-- How many backticks the text starts with. -/
def backticks (s : List Char) : Nat := (s.takeWhile (· = '\x60')).length

theorem backticks_cons_self (s : List Char) : backticks ('\x60' :: s) = backticks s + 1 := by
  simp [backticks]

theorem backticks_cons_ne {c : Char} (h : c ≠ '\x60') (s : List Char) :
    backticks (c :: s) = 0 := by
  simp [backticks, h]

/-- No literal starts with a backtick. -/
theorem backticks_write (v : Json) (r : List Char) : backticks (Literal.write v ++ r) = 0 := by
  cases v with
  | null => exact backticks_cons_ne (by decide) _
  | bool b => cases b <;> exact backticks_cons_ne (by decide) _
  | string s => exact backticks_cons_ne (by decide) _
  | array vs => exact backticks_cons_ne (by decide) _
  | object ms => exact backticks_cons_ne (by decide) _
  | number n =>
    obtain ⟨hne, hn⟩ := n.isNumberText
    obtain ⟨c, t, ht⟩ := List.exists_cons_of_ne_nil hne
    have hc : c ≠ '\x60' := by
      rintro rfl
      exact absurd (hn _ (ht ▸ List.mem_cons_self)) (by decide)
    rw [Literal.write, ht]
    exact backticks_cons_ne hc _

/-- **Inlining leaves the backticks at the front of a text alone**: what is put in the place of a
parameter starts with none. -/
theorem backticks_fill_scan (params : Params) : ∀ (s : List Char) {t : String},
    (scan s).fill params = .ok t → backticks t.toList = backticks s
  | [], t, h => by
    rw [scan] at h
    obtain rfl := Except.ok.inj h
    rfl
  | c :: r, t, h => by
    by_cases hd : c = '$'
    · subst hd
      rw [backticks_cons_ne (by decide)]
      rw [scan, if_pos rfl] at h
      dsimp only at h
      split at h
      · rw [fill] at h
        obtain ⟨t', -, rfl⟩ := Except.map_eq_ok.1 h
        rw [String.toList_append]
        exact backticks_cons_ne (by decide) _
      · rw [fill] at h
        split at h
        · cases h
        · obtain ⟨t', -, rfl⟩ := Except.map_eq_ok.1 h
          rw [String.toList_append, Literal.text, String.toList_ofList]
          exact backticks_write _ _
    · rw [scan_text hd, fill] at h
      obtain ⟨t', ht, rfl⟩ := Except.map_eq_ok.1 h
      have ih := backticks_fill_scan params r ht
      have hl : (String.singleton c ++ t').toList = c :: t'.toList := by simp
      rw [hl]
      by_cases hb : c = '\x60'
      · rw [hb, backticks_cons_self, backticks_cons_self, ih]
      · rw [backticks_cons_ne hb, backticks_cons_ne hb]

/-- A key between backticks starts with more of them than the key itself. -/
theorem backticks_key_lt (y z : List Char) : ∀ k : List Char,
    backticks (k ++ ':' :: y) <
      backticks ('\x60' :: Literal.replace '\x60' ['\x60', '\x60'] k ++ '\x60' :: z)
  | [] => by
    rw [List.nil_append, backticks_cons_ne (by decide)]
    exact Nat.succ_pos _
  | c :: k => by
    have ih := backticks_key_lt y z k
    rw [List.cons_append, backticks_cons_self] at ih
    rw [Literal.replace_cons, List.cons_append, List.cons_append, backticks_cons_self]
    by_cases hc : c = '\x60'
    · subst hc
      rw [if_pos rfl, backticks_cons_self, List.append_assoc, List.cons_append, List.cons_append,
        backticks_cons_self, backticks_cons_self, List.nil_append]
      omega
    · rw [backticks_cons_ne hc]
      omega

/-! ## Other keys -/

theorem text_memberList_cons (paramPrefix : String) (p : String × Json)
    (l : List (String × Json)) :
    ∃ y, (memberList paramPrefix (p :: l)).text.toList = p.1.toList ++ ':' :: y := by
  cases l with
  | nil =>
    refine ⟨' ' :: '$' :: (paramPrefix ++ p.1).toList, ?_⟩
    simp [memberList, separated, text, render, placeholder]
  | cons q l =>
    rw [memberList_cons_cons, text_append, String.toList_append]
    refine ⟨' ' :: '$' :: ((paramPrefix ++ p.1).toList
      ++ ',' :: ' ' :: (memberList paramPrefix (q :: l)).text.toList), ?_⟩
    simp [text, render, placeholder]

theorem writeMembers_key (p : String × Json) (l : List (String × Json)) :
    ∃ z, Literal.writeMembers (p :: l) = Literal.writeKey p.1 ++ ':' :: z := by
  cases l with
  | nil => exact ⟨_, rfl⟩
  | cons q l => exact ⟨_, Literal.writeMembers_cons _ _ _ _⟩

theorem fill_scan_slot {p : String} {r : List Char} {v : Json} (hp : IsName p) (hr : EndsName r)
    (hv : params.get? p = some v) : (scan ('$' :: (p.toList ++ r))).fill params =
      ((scan r).fill params).map (Literal.text v ++ ·) := by
  rw [scan_slot hp hr, fill, hv]

/-- A member with a word for its key is written, and the others are left to inline. -/
theorem fill_memberList_word (hp : ∀ c ∈ paramPrefix.toList, isNameChar c = true)
    {p q : String × Json} {l : List (String × Json)} (hw : isWord p.1.toList = true)
    (hv : params.get? (paramPrefix ++ p.1) = some p.2) {t : String}
    (ht : (scan ((memberList paramPrefix (p :: q :: l)).text.toList ++ ['\x7d'])).fill params =
      .ok t) :
    ∃ t', (scan ((memberList paramPrefix (q :: l)).text.toList ++ ['\x7d'])).fill params = .ok t' ∧
      t.toList = p.1.toList ++ ':' :: ' ' :: (Literal.write p.2 ++ ',' :: ' ' :: t'.toList) := by
  have hn := isName_of_isWord hw
  have hd : Dollarless (p.1 ++ ": ") := (dollarless_of_nameChars hn.2).append (by decide)
  have hs : (memberList paramPrefix (p :: q :: l)).text.toList ++ ['\x7d'] =
      (p.1 ++ ": ").toList ++ '$' :: ((paramPrefix ++ p.1).toList ++ ([',', ' ']
        ++ ((memberList paramPrefix (q :: l)).text.toList ++ ['\x7d']))) := by
    rw [memberList_cons_cons, text_append, String.toList_append]
    simp [text, render, placeholder]
  have hend : EndsName ([',', ' ']
      ++ ((memberList paramPrefix (q :: l)).text.toList ++ ['\x7d'])) :=
    .cons (by decide) _
  rw [hs, fill_scan_append params hd, fill_scan_slot (hn.prefixed hp) hend hv,
    fill_scan_append params (by decide)] at ht
  obtain ⟨t₁, h₁, rfl⟩ := Except.map_eq_ok.1 ht
  obtain ⟨t₂, h₂, rfl⟩ := Except.map_eq_ok.1 h₁
  obtain ⟨t', h', rfl⟩ := Except.map_eq_ok.1 h₂
  exact ⟨t', h', by simp [Literal.text]⟩

/-- The members are told apart at the first key that is no word: up to it the two texts agree, there
the map has more backticks. -/
theorem fill_memberList_ne (hp : ∀ c ∈ paramPrefix.toList, isNameChar c = true) :
    ∀ {members : List (String × Json)}, HoldsAll params paramPrefix members →
      (∃ p ∈ members, ¬ isWord p.1.toList = true) → ∀ {t : String},
      (scan ((memberList paramPrefix members).text.toList ++ ['\x7d'])).fill params = .ok t →
      t.toList ≠ Literal.writeMembers members ++ ['\x7d']
  | [], _, ⟨_, hm, _⟩, _, _ => nomatch hm
  | p :: l, hv, hn, t, ht => by
    intro he
    by_cases hw : isWord p.1.toList = true
    · -- a word is written alike, so the difference lies in what follows it
      have hl : ∃ q ∈ l, ¬ isWord q.1.toList = true := by
        obtain ⟨q, hq, hqw⟩ := hn
        rcases List.mem_cons.1 hq with rfl | hq
        · exact absurd hw hqw
        · exact ⟨q, hq, hqw⟩
      cases l with
      | nil =>
        obtain ⟨q, hq, -⟩ := hl
        cases hq
      | cons q l =>
        obtain ⟨t', ht', heq⟩ := fill_memberList_word hp hw (hv p List.mem_cons_self) ht
        have hk : Literal.writeKey p.1 = p.1.toList := if_pos hw
        refine fill_memberList_ne hp (fun r hr => hv r (List.mem_cons_of_mem _ hr)) hl ht' ?_
        rw [heq, Literal.writeMembers_cons, hk] at he
        simpa using he
    · obtain ⟨y, hy⟩ := text_memberList_cons paramPrefix p l
      obtain ⟨z, hz⟩ := writeMembers_key p l
      have hk : Literal.writeKey p.1 = '\x60' ::
          Literal.replace '\x60' ['\x60', '\x60'] p.1.toList ++ ['\x60'] := if_neg hw
      have hb := backticks_fill_scan params _ ht
      have hlt := backticks_key_lt (y ++ ['\x7d']) (':' :: (z ++ ['\x7d'])) p.1.toList
      rw [he, hz, hk, hy] at hb
      simp only [List.append_assoc, List.cons_append, List.nil_append] at hb hlt
      omega

/-- **The two ways to write a map agree iff all its keys are words.** -/
theorem inline_properties_iff (hp : ∀ c ∈ paramPrefix.toList, isNameChar c = true)
    {members : List (String × Json)} (hne : members ≠ [])
    (hv : HoldsAll params paramPrefix members) :
    inline (properties (memberBindings paramPrefix members)).text params =
        .ok (Literal.text (.object members)) ↔ ∀ p ∈ members, isWord p.1.toList = true := by
  refine ⟨fun h => ?_, inline_properties_of_words hp hne hv⟩
  by_contra hn
  simp only [not_forall] at hn
  obtain ⟨p, hm, hw⟩ := hn
  have hs : (properties (memberBindings paramPrefix members)).text.toList =
      ['\x7b'] ++ ((memberList paramPrefix members).text.toList ++ ['\x7d']) := by
    rw [properties_memberBindings hne, text_append, text_append, String.toList_append,
      String.toList_append]
    simp
  rw [inline, ofString, hs, fill_scan_append params (by decide)] at h
  obtain ⟨t, ht, he⟩ := Except.map_eq_ok.1 h
  refine fill_memberList_ne hp hv ⟨p, hm, hw⟩ ht ?_
  have hl := congrArg String.toList he
  simpa [Literal.text, Literal.write] using hl.symm

end Query

/-! ## Records read from JSON -/

namespace JsonRecord

/-- The members with a usable key. -/
def usable (members : List (String × Json)) : List (String × Json) :=
  members.filter fun p => !(isBlank p.1.toList || p.1 == skipTag)

/-- The members that are written: those with a usable key that is not left out. -/
def written (excludes : List String) (members : List (String × Json)) : List (String × Json) :=
  (usable members).filter fun p => !excludes.contains p.1

/-- A member as a field of the record. -/
def boundMember (p : String × Json) : BoundField := ⟨p.1, p.1, p.2⟩

theorem filterMap_bound_fields : ∀ members : List (String × Json),
    (fields members).filterMap TaggedField.bound? = (usable members).map boundMember
  | [] => rfl
  | (k, v) :: l => by
    have ih := filterMap_bound_fields l
    have hb : (TaggedField.mk k k (some v)).bound? =
        if isBlank k.toList || k == skipTag then none else some (boundMember (k, v)) := rfl
    have hf : fields ((k, v) :: l) = ⟨k, k, some v⟩ :: fields l := rfl
    rw [hf, List.filterMap_cons, hb, ih]
    unfold usable
    rw [List.filter_cons]
    cases isBlank k.toList || k == skipTag <;> rfl

variable {d : JsonRecord} {members : List (String × Json)} {e : Extract}

theorem extract_object (hd : d.value = .object members) (family : String)
    (excludes : List String) : ∃ e, d.record.extract family excludes = .ok e ∧
      e.fields = (written excludes members).map boundMember ∧
      (e.bound.map (·.tag)).Perm ((usable members).map (·.1)) := by
  have hn : d.record.entityName = .ok d.name := by simp [record, hd]
  have hf : d.record.boundFields family = .ok ((usable members).map boundMember) := by
    rw [← filterMap_bound_fields]
    simp [Record.boundFields, record, hd, Except.map]
  refine ⟨_, Record.extract_ok.2 ⟨_, _, hn, hf, rfl⟩, ?_, ?_⟩
  · rw [List.filter_map]
    rfl
  · have hp := (List.perm_append_comm.trans (List.filter_append_perm
      (fun f : BoundField => excludes.contains f.tag) ((usable members).map boundMember))).map
      (·.tag)
    rw [List.map_map] at hp
    exact hp

end JsonRecord

namespace Compiler

variable (c : Compiler) (m : NodeMethod) {d : JsonRecord} {members : List (String × Json)}

/-- **The create literal of an object, inlined, is the map of its written members iff their keys are
words.** -/
theorem inline_createLiteral_iff (hd : d.value = .object members)
    (hk : (members.map (·.1)).Nodup) (hne : JsonRecord.written m.operation.excludes members ≠ []) :
    ∃ f, c.callNode d.record m = .ok f ∧
      (inline f.createLiteral.text f.params =
          .ok (Literal.text (.object (JsonRecord.written m.operation.excludes members))) ↔
        ∀ p ∈ JsonRecord.written m.operation.excludes members, isWord p.1.toList = true) := by
  obtain ⟨e, he, hf, hp⟩ :=
    JsonRecord.extract_object hd c.config.tagName m.operation.excludes
  have hdist : e.DistinctTags := by
    refine hp.nodup_iff.2 (hk.sublist ?_)
    exact List.filter_sublist.map _
  rw [callNode_eq]
  refine ⟨_, (NodeComposer.perform_ok _ _ _).2 ⟨e, he, rfl⟩, ?_⟩
  have hb : (c.assembler.matched (m.operation.clause c.config.clause) e).bindings =
      Query.memberBindings c.assembler.paramPrefix
        (JsonRecord.written m.operation.excludes members) := by
    show e.fields.map c.assembler.binding = _
    rw [hf, List.map_map]
    rfl
  have hv : Query.HoldsAll (c.assembler.matched (m.operation.clause c.config.clause) e).params
      c.assembler.paramPrefix (JsonRecord.written m.operation.excludes members) := by
    intro p hm
    have hm' : JsonRecord.boundMember p ∈ e.fields := hf ▸ List.mem_map_of_mem hm
    exact Assembler.get?_matched_of_mem hdist hm'
  have h := Query.inline_properties_iff c.assembler_plain.nameChars hne hv
  rw [← hb] at h
  exact h

/-- Words as keys, a value with a quote, and a member that is left out. -/
theorem inline_createLiteral_words :
    ∃ f, (⟨.default, by decide⟩ : Compiler).callNode
        (JsonRecord.record ⟨"User", .object
          [("name", .string "O'Brien"), ("key", .null), ("_2", .array [.bool true])]⟩)
        (.create .entity false ["key"]) = .ok f ∧
      inline f.createLiteral.text f.params = .ok "\x7bname: 'O\\'Brien', _2: [true]\x7d" := by
  obtain ⟨f, hf, h⟩ := inline_createLiteral_iff ⟨.default, by decide⟩
    (.create .entity false ["key"])
    (d := ⟨"User", .object
      [("name", .string "O'Brien"), ("key", .null), ("_2", .array [.bool true])]⟩)
    rfl (by decide) (by decide)
  exact ⟨f, hf, h.2 (by decide)⟩

/-- Keys that are no words: a digit comes first, and the key is written without backticks; or a
blank ends the parameter, which then has no value. -/
theorem inline_createLiteral_quoted :
    (∃ f, (⟨.default, by decide⟩ : Compiler).callNode
        (JsonRecord.record ⟨"User", .object [("1st", .bool true)]⟩)
        (.create .entity false []) = .ok f ∧
      inline f.createLiteral.text f.params = .ok "\x7b1st: true\x7d" ∧
      Literal.text (.object [("1st", .bool true)]) = "\x7b\x601st\x60: true\x7d") ∧
    ∃ f, (⟨.default, by decide⟩ : Compiler).callNode
        (JsonRecord.record ⟨"User", .object [("two words", .bool true)]⟩)
        (.create .entity false []) = .ok f ∧
      inline f.createLiteral.text f.params = .error ⟨"two"⟩ := by
  refine ⟨⟨_, rfl, ?_, ?_⟩, _, rfl, ?_⟩
  · decide +kernel
  · decide +kernel
  · decide +kernel

end Compiler

end CypherFragments
