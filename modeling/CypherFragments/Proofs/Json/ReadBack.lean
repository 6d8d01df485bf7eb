import CypherFragments.Json.Read
import CypherFragments.Json.Writer

/-!
# JSON read back

What the readers take off the start of a written text, whatever follows it. `Reads read s x r` says
that `read` finds `x` at the start of `s` and leaves `r`.

* `Reader.reads_escapeChar`, `Reader.reads_stringBody`: a character that is written into a string is
  read as itself, and no text ends its string before the closing quote.
* `Reader.reads_items`, `Reader.reads_member`: an array, by induction on its items, and an object,
  one member at a time.
* `Shape.reads_string`, `Shape.reads_array`, `Shape.reads_object`: a value, by its first character.
-/

set_option autoImplicit false

namespace CypherFragments.Json

variable {α β κ σ : Type} {s t u r : List Char} {x : α}

/-- The reader finds `x` at the start of `s` and leaves `r`. -/
def Reads (read : Reader α) (s : List Char) (x : α) (r : List Char) : Prop :=
  ∃ h : r.length < s.length, read s = .ok (x, ⟨r, h⟩)

theorem Reads.map {read : Reader α} (h : Reads read s x r) (f : α → β) :
    Reads (Reader.map f read) s (f x) r := by
  obtain ⟨hr, h⟩ := h
  refine ⟨hr, ?_⟩
  rw [Reader.map, h]
  rfl

namespace Reader

theorem skipBlank_cons {c : Char} (hc : isBlank c = false) (s : List Char) :
    skipBlank (c :: s) = .all (c :: s) := by
  rw [skipBlank, hc]
  rfl

/-! ## Strings -/

section
variable {escape unicode : Reader Char} {c d : Char} {ds : List Char} {n : Nat}

theorem reads_close (escape : Reader Char) (r : List Char) :
    Reads (stringBy escape) ('"' :: r) [] r := by
  refine ⟨by simp, ?_⟩
  rw [stringBy]
  rfl

/-- A character that is not escaped is itself. -/
theorem reads_plain (h1 : c ≠ '"') (h2 : c ≠ '\\') (h3 : ¬ c.toNat < 0x20)
    (h : Reads (stringBy escape) s ds r) : Reads (stringBy escape) (c :: s) (c :: ds) r := by
  obtain ⟨hr, h⟩ := h
  refine ⟨Nat.lt_succ_of_lt hr, ?_⟩
  rw [stringBy, if_neg h1, if_neg h2, if_neg h3, h]
  rfl

theorem reads_escaped (he : Reads escape s d t) (h : Reads (stringBy escape) t ds r) :
    Reads (stringBy escape) ('\\' :: s) (d :: ds) r := by
  obtain ⟨ht, he⟩ := he
  obtain ⟨hr, h⟩ := h
  refine ⟨Nat.lt_succ_of_lt (Nat.lt_trans hr ht), ?_⟩
  rw [stringBy, if_neg (by decide), if_pos rfl, he]
  simp only [bind, Except.bind, h]
  rfl

theorem reads_simpleEscape (hc : simpleEscape? c = some d) (r : List Char) :
    Reads (escapeBy unicode) (c :: r) d r := by
  have hu : c ≠ 'u' := by
    rintro rfl
    rw [show simpleEscape? 'u' = none by decide] at hc
    cases hc
  refine ⟨Nat.lt_succ_self _, ?_⟩
  rw [escapeBy, if_neg hu, hc]
  rfl

theorem reads_unicode (h : Reads unicode s d r) : Reads (escapeBy unicode) ('u' :: s) d r := by
  obtain ⟨hr, h⟩ := h
  refine ⟨Nat.lt_succ_of_lt hr, ?_⟩
  rw [escapeBy, if_pos rfl, h]
  rfl

/-- Two digits are enough for a control character. -/
theorem hexNumber?_hexDigit :
    ∀ n < 0x20, hexNumber? ['0', '0', hexDigit (n / 16), hexDigit (n % 16)] = some n := by
  decide

theorem reads_control (hc : c.toNat < 0x20) (r : List Char) :
    Reads unicodeEscape ('0' :: '0' :: hexDigit (c.toNat / 16) :: hexDigit (c.toNat % 16) :: r) c
      r := by
  have hl : isLowSurrogate c.toNat = false := by
    rw [isLowSurrogate, Bool.and_eq_false_iff]
    exact .inl (decide_eq_false (by omega))
  have hh : isHighSurrogate c.toNat = false := by
    rw [isHighSurrogate, Bool.and_eq_false_iff]
    exact .inl (decide_eq_false (by omega))
  refine ⟨by simp only [List.length_cons]; omega, ?_⟩
  rw [unicodeEscape, hexFour, hexNumber?_hexDigit c.toNat hc]
  simp only [bind, Except.bind, hl, hh, Char.ofNat_toNat]
  rfl

/-- **A character that is written into a string is read as itself.** -/
theorem reads_escapeChar (c : Char) (h : Reads (stringBy (escapeBy unicodeEscape)) s ds r) :
    Reads (stringBy (escapeBy unicodeEscape)) (escapeChar c ++ s) (c :: ds) r := by
  have simple {c d : Char} (hc : simpleEscape? d = some c) :
      Reads (stringBy (escapeBy unicodeEscape)) ('\\' :: d :: s) (c :: ds) r :=
    reads_escaped (reads_simpleEscape hc s) h
  unfold escapeChar
  by_cases h1 : c = '"'
  · subst h1; exact simple (by decide)
  by_cases h2 : c = '\\'
  · subst h2; exact simple (by decide)
  by_cases h3 : c = '\n'
  · subst h3; exact simple (by decide)
  by_cases h4 : c = '\r'
  · subst h4; exact simple (by decide)
  by_cases h5 : c = '\t'
  · subst h5; exact simple (by decide)
  by_cases h6 : c = '\x08'
  · subst h6; exact simple (by decide)
  by_cases h7 : c = '\x0c'
  · subst h7; exact simple (by decide)
  rw [if_neg h1, if_neg h2, if_neg h3, if_neg h4, if_neg h5, if_neg h6, if_neg h7]
  split
  · rename_i hc
    exact reads_escaped (reads_unicode (reads_control hc s)) h
  · rename_i hc
    exact reads_plain h1 h2 hc h

theorem reads_stringBody (s : String) (r : List Char) :
    Reads stringBody (s.toList.flatMap escapeChar ++ '"' :: r) s r := by
  have hs : ∀ cs : List Char, Reads (stringBy (escapeBy unicodeEscape))
      (cs.flatMap escapeChar ++ '"' :: r) cs r := by
    intro cs
    induction cs with
    | nil => exact reads_close _ r
    | cons c cs ih =>
      rw [List.flatMap_cons, List.append_assoc]
      exact reads_escapeChar c ih
  have h := (hs s.toList).map String.ofList
  rwa [String.ofList_toList] at h

end

/-! ## Arrays -/

/-- A text that starts neither with white space nor with the end of an array. -/
def OpensItem (s : List Char) : Prop := ∃ c t, s = c :: t ∧ isBlank c = false ∧ c ≠ ']'

section
variable {item : Reader α} {xs : List α} {first : Bool}

theorem reads_items_nil (item : Reader α) (first : Bool) (r : List Char) :
    Reads (items item first) (']' :: r) [] r := by
  refine ⟨Nat.lt_succ_self _, ?_⟩
  rw [items]
  rfl

/-- An item behind what has to stand in front of it. -/
theorem reads_items_cons (hn : ∃ h, nextItem first s = .ok (some ⟨t, h⟩)) (hx : Reads item t x u)
    (hs : Reads (items item false) u xs r) : Reads (items item first) s (x :: xs) r := by
  obtain ⟨ht, hn⟩ := hn
  obtain ⟨hu, hx⟩ := hx
  obtain ⟨hr, hs⟩ := hs
  refine ⟨by omega, ?_⟩
  rw [items, hn]
  simp only [bind, Except.bind, hx, hs]
  rfl

theorem nextItem_first (h : OpensItem s) : ∃ h, nextItem true s = .ok (some ⟨s, h⟩) := by
  obtain ⟨c, t, rfl, hb, hc⟩ := h
  refine ⟨Nat.le_refl _, ?_⟩
  rw [nextItem, skipBlank_cons hb]
  exact if_neg hc

theorem nextItem_more (h : OpensItem s) : ∃ h, nextItem false (',' :: s) = .ok (some ⟨s, h⟩) := by
  obtain ⟨c, t, rfl, hb, hc⟩ := h
  refine ⟨Nat.le_succ _, ?_⟩
  rw [nextItem, skipBlank_cons (by decide)]
  simp only [Tail.all, skipBlank_cons hb]
  exact if_neg hc

theorem opensItem_writeItems {v : Json} (h : OpensItem v.writeCompact) (vs : List Json)
    (r : List Char) : OpensItem (writeItems (v :: vs) ++ r) := by
  obtain ⟨c, t, hv, hc⟩ := h
  cases vs with
  | nil => exact ⟨c, t ++ r, by rw [writeItems, hv, List.cons_append], hc⟩
  | cons w vs =>
    refine ⟨c, t ++ ',' :: writeItems (w :: vs) ++ r, ?_, hc⟩
    rw [writeItems, hv, List.cons_append, List.cons_append]
    simp

/-- **Items are read as they are written**, if each of them is, whatever follows it. -/
theorem reads_items {f : α → Json} (ho : ∀ x, OpensItem (f x).writeCompact)
    (hf : ∀ x r, Reads item ((f x).writeCompact ++ r) x r) (xs : List α) (r : List Char) :
    Reads (items item true) (writeItems (xs.map f) ++ ']' :: r) xs r := by
  have more (xs : List α) : ∀ (x : α) (first : Bool) (s : List Char),
      (∃ h, nextItem first s = .ok (some ⟨writeItems (f x :: xs.map f) ++ ']' :: r, h⟩)) →
      Reads (items item first) s (x :: xs) r := by
    induction xs with
    | nil => exact fun x first s hn => reads_items_cons hn (hf x _) (reads_items_nil item false r)
    | cons y xs ih =>
      intro x first s hn
      have hw : writeItems (f x :: (y :: xs).map f) ++ ']' :: r =
          (f x).writeCompact ++ ',' :: (writeItems (f y :: xs.map f) ++ ']' :: r) := by
        simp [writeItems]
      rw [hw] at hn
      exact reads_items_cons hn (hf x _)
        (ih y false _ (nextItem_more (opensItem_writeItems (ho y) _ _)))
  cases xs with
  | nil => exact reads_items_nil item true r
  | cons x xs => exact more xs x true _ (nextItem_first (opensItem_writeItems (ho x) _ _))

end

/-! ## Objects -/

section
variable {key : Reader κ} {step : κ → σ → Except Fault (Reader σ)} {first : Bool}

theorem reads_members_nil (key : Reader κ) (step : κ → σ → Except Fault (Reader σ)) (acc : σ)
    (first : Bool) (r : List Char) : Reads (members key step acc first) ('\x7d' :: r) acc r := by
  refine ⟨Nat.lt_succ_self _, ?_⟩
  rw [members]
  rfl

/-- A member behind what has to stand in front of its key. -/
theorem reads_member {k : κ} {read : Reader σ} {v : List Char} {acc acc' acc'' : σ}
    (hn : ∃ h, nextKey first s = .ok (some ⟨t, h⟩)) (hk : Reads key t k (':' :: u))
    (hs : step k acc = .ok read) (hv : Reads read u acc' v)
    (hm : Reads (members key step acc' false) v acc'' r) :
    Reads (members key step acc first) s acc'' r := by
  obtain ⟨ht, hn⟩ := hn
  obtain ⟨hu, hk⟩ := hk
  obtain ⟨hv', hv⟩ := hv
  obtain ⟨hr, hm⟩ := hm
  rw [List.length_cons] at hu
  refine ⟨by omega, ?_⟩
  rw [members, hn]
  simp only [bind, Except.bind, hk, hs]
  show (read u >>= _) = _
  rw [hv]
  simp only [bind, Except.bind, hm]
  rfl

theorem nextKey_first (s : List Char) :
    ∃ h, nextKey true ('"' :: s) = .ok (some ⟨s, h⟩) := ⟨Nat.lt_succ_self _, rfl⟩

theorem nextKey_more (s : List Char) :
    ∃ h, nextKey false (',' :: '"' :: s) = .ok (some ⟨s, h⟩) :=
  ⟨Nat.lt_succ_of_lt (Nat.lt_succ_self _), rfl⟩

end

end Reader

/-! ## Values -/

namespace Shape

open Reader

variable {shape : Shape α}

theorem reads_of_readFrom {c : Char} (hc : isBlank c = false)
    (h : ∃ h, shape.readFrom c s = .ok (x, ⟨r, h⟩)) : Reads shape.read (c :: s) x r := by
  obtain ⟨hr, h⟩ := h
  refine ⟨hr, ?_⟩
  rw [read, skipBlank_cons hc]
  simp only [Tail.all, h]
  rfl

theorem reads_string {y : String} (hx : shape.string y = .ok x) (r : List Char) :
    Reads shape.read (writeString y ++ r) x r := by
  obtain ⟨hr, h⟩ := reads_stringBody y r
  have hw : writeString y ++ r = '"' :: (y.toList.flatMap escapeChar ++ '"' :: r) := by
    simp [writeString]
  rw [hw]
  refine reads_of_readFrom (by decide) ⟨Nat.lt_succ_of_lt hr, ?_⟩
  rw [readFrom, if_pos rfl, h]
  simp only [bind, Except.bind, hx]
  rfl

theorem reads_array (h : Reads shape.array s x r) : Reads shape.read ('[' :: s) x r := by
  obtain ⟨hr, h⟩ := h
  refine reads_of_readFrom (by decide) ⟨Nat.lt_succ_of_lt hr, ?_⟩
  rw [readFrom, if_neg (by decide), if_pos rfl, h]
  rfl

theorem reads_object (h : Reads shape.object s x r) : Reads shape.read ('\x7b' :: s) x r := by
  obtain ⟨hr, h⟩ := h
  refine reads_of_readFrom (by decide) ⟨Nat.lt_succ_of_lt hr, ?_⟩
  rw [readFrom, if_neg (by decide), if_neg (by decide), if_pos rfl, h]
  rfl

end Shape

theorem Reader.reads_text (s : String) (r : List Char) :
    Reads Reader.text (writeString s ++ r) s r :=
  Shape.reads_string rfl r

theorem readWith_of_reads {read : Reader α} {s : String} (h : Reads read s.toList x []) :
    readWith read s = .ok x := by
  obtain ⟨hr, h⟩ := h
  rw [readWith, h]
  rfl

end CypherFragments.Json
