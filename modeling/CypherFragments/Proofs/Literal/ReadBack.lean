import CypherFragments.Literal
import CypherFragments.Proofs.Literal.NumberText
import CypherFragments.Proofs.Name

/-!
# Literals read back

`Literal.read_write`: a literal followed by a delimiter is read as the value it was written for, and
nothing is taken of what follows. The parts:

* `escape_eq`: the replacements, one after the other, are one escape for each character.
* `quoted_escape`, `backticked_replace`: no text ends its quotes before the closing one.
* `key_writeKey`: a key is read back, written plainly or between backticks.
* `value_write`, `items_write`, `members_write`: the readers, along the recursion of the writers.
-/

set_option autoImplicit false

namespace CypherFragments.Literal

open Reader

/-! ## Quotes -/

/-- One character of a string between single quotes. -/
def escapeChar (c : Char) : List Char :=
  if c = '\\' then ['\\', '\\']
  else if c = '\'' then ['\\', '\'']
  else if c = '\n' then ['\\', 'n']
  else if c = '\r' then ['\\', 'r']
  else if c = '\t' then ['\\', 't']
  else [c]

/-- The replacements, one after the other, are one escape for each character. -/
theorem escape_eq (s : List Char) : escape s = s.flatMap escapeChar := by
  unfold escape replace
  simp only [List.flatMap_assoc]
  refine congrArg (s.flatMap ·) (funext fun c => ?_)
  unfold escapeChar
  by_cases h1 : c = '\\'
  · subst h1; rfl
  by_cases h2 : c = '\''
  · subst h2; rfl
  by_cases h3 : c = '\n'
  · subst h3; rfl
  by_cases h4 : c = '\r'
  · subst h4; rfl
  by_cases h5 : c = '\t'
  · subst h5; rfl
  simp [h1, h2, h3, h4, h5]

/-- A character that is not escaped neither closes the quotes nor starts an escape. -/
theorem quoted_cons {c : Char} {r : List Char} (h1 : c ≠ '\'') (h2 : c ≠ '\\') :
    quoted (c :: r) = do
      let (s, t) ← quoted r
      return (c :: s, t) := by
  rw [quoted]
  · exact fun h => h1 h
  · exact fun d t h _ => h2 h

theorem quoted_escapeChar (c : Char) (r : List Char) :
    quoted (escapeChar c ++ r) = do
      let (s, t) ← quoted r
      return (c :: s, t) := by
  unfold escapeChar
  by_cases h1 : c = '\\'
  · subst h1; rfl
  by_cases h2 : c = '\''
  · subst h2; rfl
  by_cases h3 : c = '\n'
  · subst h3; rfl
  by_cases h4 : c = '\r'
  · subst h4; rfl
  by_cases h5 : c = '\t'
  · subst h5; rfl
  rw [if_neg h1, if_neg h2, if_neg h3, if_neg h4, if_neg h5]
  exact quoted_cons h2 h1

/-- **No text ends its quotes early**, whatever follows them. -/
theorem quoted_escape (s r : List Char) : quoted (escape s ++ '\'' :: r) = some (s, r) := by
  rw [escape_eq]
  induction s with
  | nil => rfl
  | cons c s ih =>
    rw [List.flatMap_cons, List.append_assoc, quoted_escapeChar, ih]
    rfl

theorem replace_cons (c : Char) (w : List Char) (d : Char) (s : List Char) :
    replace c w (d :: s) = (if d = c then w else [d]) ++ replace c w s :=
  List.flatMap_cons

/-- **No key ends its backticks early**, unless another backtick follows them. -/
theorem backticked_replace {r : List Char} (hr : ∀ t, r ≠ '\x60' :: t) : ∀ s : List Char,
    backticked (replace '\x60' ['\x60', '\x60'] s ++ '\x60' :: r) = some (s, r)
  | [] => by
    show backticked ('\x60' :: r) = _
    rw [backticked]
    exact fun t h => hr t h
  | c :: s => by
    have ih := backticked_replace hr s
    rw [replace_cons, List.append_assoc]
    by_cases h : c = '\x60'
    · rw [if_pos h, List.cons_append, List.cons_append, List.nil_append, backticked, ih, h]
      rfl
    · rw [if_neg h, List.cons_append, List.nil_append, backticked, ih]
      · rfl
      · exact fun t hc _ => h hc
      · exact fun hc => h hc

/-! ## Delimiters -/

/-- The characters that no literal goes on with. -/
def delimiters : List Char := [',', ']', '\x7d', ')', ' ']

/-- Nothing follows, or a delimiter. -/
def Delimited : List Char → Prop
  | [] => True
  | c :: _ => c ∈ delimiters

instance : DecidablePred Delimited
  | [] => isTrue trivial
  | c :: _ => inferInstanceAs (Decidable (c ∈ delimiters))

theorem Delimited.ends {p : Char → Bool} (hp : delimiters.any p = false) :
    ∀ {r : List Char}, Delimited r → ∀ c ∈ r.head?, p c = false
  | [], _, _, hc => nomatch hc
  | _ :: _, h, _, hc => by
    obtain rfl := Option.some.inj hc
    exact Bool.eq_false_iff.2 (List.any_eq_false.1 hp _ h)

/-! ## Keys -/

theorem isNameChar_of_isWord {k : List Char} (h : Text.isWord k = true) :
    ∀ c ∈ k, Text.isNameChar c = true := by
  cases k with
  | nil => exact fun _ hc => nomatch hc
  | cons c k =>
    rw [Text.isWord, Bool.and_eq_true, List.all_eq_true] at h
    exact h.2

theorem key_word {k r : List Char} (hk : Text.isWord k = true) (hr : Text.EndsName r) :
    key (k ++ r) = some (String.ofList k, r) := by
  have hs := isNameChar_of_isWord hk
  cases k with
  | nil => cases hk
  | cons c k =>
    have hc : c ≠ '\x60' := by
      rintro rfl
      exact absurd (hs _ List.mem_cons_self) (by decide)
    rw [List.cons_append, key, plainKey, ← List.cons_append, Text.takeWhile_name hs hr,
      Text.dropWhile_name hs hr, if_pos hk]
    exact fun t h => hc (List.cons.inj h).1

theorem key_quoted {r : List Char} (hr : ∀ t, r ≠ '\x60' :: t) (k : List Char) :
    key ('\x60' :: replace '\x60' ['\x60', '\x60'] k ++ '\x60' :: r) =
      some (String.ofList k, r) := by
  rw [List.cons_append, key, backticked_replace hr]
  rfl

theorem key_writeKey (k : String) (r : List Char) :
    key (writeKey k ++ ':' :: r) = some (k, ':' :: r) := by
  unfold writeKey
  split
  · rename_i h
    rw [key_word h (.cons (by decide) r), String.ofList_toList]
  · have hr : ∀ t, ':' :: r ≠ '\x60' :: t :=
      fun t h => absurd (List.cons.inj h).1 (by decide)
    rw [← List.append_cons, key_quoted hr, String.ofList_toList]

/-! ## Where literals start -/

/-- The first character is no delimiter: neither a blank nor one that closes a list or map. -/
def Opens (s : List Char) : Prop := ∃ c t, s = c :: t ∧ c ∉ delimiters

theorem Opens.append {s : List Char} (h : Opens s) (t : List Char) : Opens (s ++ t) := by
  obtain ⟨c, u, rfl, hc⟩ := h
  exact ⟨c, u ++ t, rfl, hc⟩

theorem Opens.length_pos {s : List Char} (h : Opens s) : 0 < s.length := by
  obtain ⟨c, t, rfl, -⟩ := h
  exact Nat.succ_pos _

theorem Opens.skipBlanks {s : List Char} (h : Opens s) : skipBlanks s = s := by
  obtain ⟨c, t, rfl, hc⟩ := h
  have hb : c ≠ ' ' := by
    rintro rfl
    exact hc (by decide)
  exact List.dropWhile_cons_of_neg (by simp [hb])

theorem Opens.of_class {p : Char → Bool} (hp : delimiters.any p = false) {s : List Char}
    (hn : s ≠ []) (h : ∀ c ∈ s, p c = true) : Opens s := by
  cases s with
  | nil => exact absurd rfl hn
  | cons c s =>
    refine ⟨c, s, rfl, fun hc => ?_⟩
    exact List.any_eq_false.1 hp c hc (h c List.mem_cons_self)

theorem opens_writeKey (k : String) : Opens (writeKey k) := by
  unfold writeKey
  split
  · rename_i h
    refine .of_class (by decide) (fun hn => ?_) (isNameChar_of_isWord h)
    rw [hn] at h
    cases h
  · exact ⟨_, _, rfl, by decide⟩

theorem opens_write (v : Json) : Opens (write v) := by
  cases v with
  | null => exact ⟨_, _, by rfl, by decide⟩
  | bool b => cases b <;> exact ⟨_, _, by rfl, by decide⟩
  | number n => exact .of_class (by decide) n.isNumberText.1 n.isNumberText.2
  | string s => exact ⟨_, _, rfl, by decide⟩
  | array vs => exact ⟨_, _, rfl, by decide⟩
  | object ms => exact ⟨_, _, rfl, by decide⟩

/-! ## Scalars -/

/-- The characters that strings, lists and maps start with. -/
def openers : List Char := ['\'', '[', '\x7b']

/-- What starts with no other opening character is a number or a word. -/
theorem value_scalar {c : Char} (hc : c ∉ openers) (s : List Char) (n : Nat) :
    value (n + 1) (c :: s) = scalar (c :: s) := by
  rw [value]
  · rintro r ⟨⟩
    exact hc (by decide)
  · rintro r ⟨⟩
    exact hc (by decide)
  · rintro r ⟨⟩
    exact hc (by decide)

theorem value_number {s r : List Char} (hs : IsNumberText s) (hr : Delimited r) (n : Nat) :
    value (n + 1) (s ++ r) = some (.number s, r) := by
  have ht := Text.takeWhile_run hs.2 (hr.ends (p := isNumberChar) (by decide))
  have hd := Text.dropWhile_run hs.2 (hr.ends (p := isNumberChar) (by decide))
  obtain ⟨hn, hs⟩ := hs
  cases s with
  | nil => exact absurd rfl hn
  | cons c s =>
    have hc : isNumberChar c = true := hs c List.mem_cons_self
    have ho : c ∉ openers := fun h =>
      List.any_eq_false.1 (show openers.any isNumberChar = false by decide) c h hc
    rw [List.cons_append] at ht hd ⊢
    rw [value_scalar ho, scalar, ht, hd]
    exact if_pos hc

theorem value_word {c : Char} {w r : List Char} {v : Tree} (hc : isNumberChar c = false)
    (hs : (c :: w).all Text.isNameChar = true) (hw : word? (c :: w) = some v)
    (hr : Delimited r) (n : Nat) : value (n + 1) (c :: w ++ r) = some (v, r) := by
  rw [List.all_eq_true] at hs
  have ht := Text.takeWhile_name hs (hr.ends (by decide))
  have hd := Text.dropWhile_name hs (hr.ends (by decide))
  have ho : c ∉ openers := fun h =>
    List.any_eq_false.1 (show openers.any Text.isNameChar = false by decide) c h
      (hs c List.mem_cons_self)
  have hn : (c :: (w ++ r)).head?.any isNumberChar = false := hc
  rw [List.cons_append] at ht hd ⊢
  rw [value_scalar ho, scalar, ht, hd, hn, hw]
  rfl

/-! ## Lists and maps -/

section
variable {n : Nat} {s t r : List Char} {k : String} {v : Tree}

theorem value_string (s : String) (r : List Char) (n : Nat) :
    value (n + 1) (writeString s ++ r) = some (.string s, r) := by
  rw [writeString, List.append_assoc, List.cons_append, value, Reader.string]
  show (quoted (escape s.toList ++ '\'' :: r)).bind _ = _
  rw [quoted_escape]
  exact congrArg (fun s => some (Tree.string s, r)) String.ofList_toList

theorem value_list {vs : List Tree} (hs : Opens s) (h : items n s = some (vs, r)) :
    value (n + 1) ('[' :: s) = some (.list vs, r) := by
  rw [value, hs.skipBlanks]
  obtain ⟨c, t, rfl, hc⟩ := hs
  split
  · rename_i h
    obtain ⟨rfl, -⟩ := List.cons.inj h
    exact absurd (by decide) hc
  · rw [h]
    rfl

theorem value_map {ms : List (String × Tree)} (hs : Opens s) (h : members n s = some (ms, r)) :
    value (n + 1) ('\x7b' :: s) = some (.map ms, r) := by
  rw [value, hs.skipBlanks]
  obtain ⟨c, t, rfl, hc⟩ := hs
  split
  · rename_i h
    obtain ⟨rfl, -⟩ := List.cons.inj h
    exact absurd (by decide) hc
  · rw [h]
    rfl

theorem items_last (h : value n s = some (v, ']' :: r)) : items (n + 1) s = some ([v], r) := by
  rw [items, h]
  rfl

theorem items_more {vs : List Tree} (h : value n s = some (v, ',' :: ' ' :: t)) (ht : Opens t)
    (hvs : items n t = some (vs, r)) : items (n + 1) s = some (v :: vs, r) := by
  rw [items, h]
  show (items n (skipBlanks t)).map _ = _
  rw [ht.skipBlanks, hvs]
  rfl

theorem members_last (hk : key s = some (k, ':' :: ' ' :: t)) (ht : Opens t)
    (h : value n t = some (v, '\x7d' :: r)) : members (n + 1) s = some ([(k, v)], r) := by
  rw [members, hk]
  show (value n (skipBlanks t)).bind _ = _
  rw [ht.skipBlanks, h]
  rfl

theorem members_more {u : List Char} {ms : List (String × Tree)}
    (hk : key s = some (k, ':' :: ' ' :: t)) (ht : Opens t)
    (h : value n t = some (v, ',' :: ' ' :: u)) (hu : Opens u)
    (hms : members n u = some (ms, r)) : members (n + 1) s = some ((k, v) :: ms, r) := by
  rw [members, hk]
  show (value n (skipBlanks t)).bind _ = _
  rw [ht.skipBlanks, h]
  show (members n (skipBlanks u)).map _ = _
  rw [hu.skipBlanks, hms]
  rfl

end

/-! ## Values

Each reader passes on one step less than it was given and takes at least one character, so the steps
left always cover the text left. -/

theorem writeItems_cons (v w : Json) (vs : List Json) :
    writeItems (v :: w :: vs) = write v ++ ',' :: ' ' :: writeItems (w :: vs) := rfl

theorem writeMembers_cons (k : String) (v : Json) (m : String × Json)
    (ms : List (String × Json)) : writeMembers ((k, v) :: m :: ms) =
      writeKey k ++ ':' :: ' ' :: (write v ++ ',' :: ' ' :: writeMembers (m :: ms)) := by
  simp [writeMembers]

theorem opens_writeItems (v : Json) : ∀ vs : List Json, Opens (writeItems (v :: vs))
  | [] => opens_write v
  | _ :: _ => (opens_write v).append _

theorem opens_writeMembers (k : String) (v : Json) :
    ∀ ms : List (String × Json), Opens (writeMembers ((k, v) :: ms))
  | [] => (opens_writeKey k).append _
  | m :: ms => writeMembers_cons k v m ms ▸ (opens_writeKey k).append _

mutual

theorem value_write : ∀ (v : Json) (n : Nat) {r : List Char}, Delimited r →
    (write v).length ≤ n → value n (write v ++ r) = some (Tree.ofJson v, r)
  | v, 0, r, _, h => by
    have hv := (opens_write v).length_pos
    omega
  | .null, n + 1, r, hr, _ => value_word (by decide) (by decide) rfl hr n
  | .bool true, n + 1, r, hr, _ => value_word (by decide) (by decide) rfl hr n
  | .bool false, n + 1, r, hr, _ => value_word (by decide) (by decide) rfl hr n
  | .number m, n + 1, r, hr, _ => value_number m.isNumberText hr n
  | .string s, n + 1, r, _, _ => value_string s r n
  | .array [], n + 1, r, _, _ => rfl
  | .array (v :: vs), n + 1, r, _, h => by
    rw [write, List.append_assoc, List.cons_append]
    simp only [write, List.length_append, List.length_cons] at h
    refine value_list ((opens_writeItems v vs).append _) (items_write v vs n r ?_)
    omega
  | .object [], n + 1, r, _, _ => rfl
  | .object ((k, v) :: ms), n + 1, r, _, h => by
    rw [write, List.append_assoc, List.cons_append]
    simp only [write, List.length_append, List.length_cons] at h
    refine value_map ((opens_writeMembers k v ms).append _) (members_write k v ms n r ?_)
    omega

theorem items_write : ∀ (v : Json) (vs : List Json) (n : Nat) (r : List Char),
    (writeItems (v :: vs)).length < n →
    items n (writeItems (v :: vs) ++ ']' :: r) = some (Tree.ofItems (v :: vs), r)
  | v, [], n + 1, r, h =>
    items_last (value_write v n (by decide : ']' ∈ delimiters) (Nat.lt_succ_iff.1 h))
  | v, w :: vs, n + 1, r, h => by
    have hv := (opens_write v).length_pos
    simp only [writeItems_cons, List.length_append, List.length_cons] at h
    rw [writeItems_cons, List.append_assoc, List.cons_append, List.cons_append]
    refine items_more (value_write v n (by decide : ',' ∈ delimiters) ?_)
      ((opens_writeItems w vs).append _) (items_write w vs n r ?_)
    · omega
    · omega

theorem members_write : ∀ (k : String) (v : Json) (ms : List (String × Json)) (n : Nat)
    (r : List Char), (writeMembers ((k, v) :: ms)).length < n →
    members n (writeMembers ((k, v) :: ms) ++ '\x7d' :: r) = some (Tree.ofMembers ((k, v) :: ms), r)
  | k, v, [], n + 1, r, h => by
    simp only [writeMembers, List.length_append, List.length_cons] at h
    rw [writeMembers, List.append_assoc, List.cons_append, List.cons_append]
    refine members_last (key_writeKey k _) ((opens_write v).append _)
      (value_write v n (by decide : '\x7d' ∈ delimiters) ?_)
    omega
  | k, v, (k', v') :: ms, n + 1, r, h => by
    have hk := (opens_writeKey k).length_pos
    simp only [writeMembers_cons, List.length_append, List.length_cons] at h
    rw [writeMembers_cons, List.append_assoc, List.cons_append, List.cons_append, List.append_assoc,
      List.cons_append, List.cons_append]
    refine members_more (key_writeKey k _) ((opens_write v).append _)
      (value_write v n (by decide : ',' ∈ delimiters) ?_) ((opens_writeMembers k' v' ms).append _)
      (members_write k' v' ms n r ?_)
    · omega
    · omega

end

/-- **A literal is read as the value it was written for**, and nothing of what follows is taken. A
string needs no delimiter behind it, and a key only its colon. No two values that differ are written
the same, even with different texts behind them. -/
theorem read_write : (∀ (v : Json) (r : List Char), Delimited r →
      read ((text v).toList ++ r) = some (Tree.ofJson v, r)) ∧
    (∀ (s : String) (r : List Char),
      read ((text (.string s)).toList ++ r) = some (.string s, r)) ∧
    (∀ (k : String) (r : List Char), key (writeKey k ++ ':' :: r) = some (k, ':' :: r)) ∧
    ∀ (v w : Json) (r t : List Char), Delimited r → Delimited t →
      (text v).toList ++ r = (text w).toList ++ t → Tree.ofJson v = Tree.ofJson w ∧ r = t := by
  have hread (v : Json) (r : List Char) (hr : Delimited r) :
      read ((text v).toList ++ r) = some (Tree.ofJson v, r) := by
    rw [text, String.toList_ofList]
    refine value_write v _ hr ?_
    rw [List.length_append]
    omega
  refine ⟨hread, fun s r => ?_, key_writeKey, fun v w r t hr ht h => ?_⟩
  · rw [text, String.toList_ofList]
    exact value_string s r _
  · have hv := hread v r hr
    rw [h, hread w t ht] at hv
    exact (Prod.mk.inj (Option.some.inj hv)).imp Eq.symm Eq.symm

/-- A backtick in a key, a quote and a closing bracket in a string. -/
theorem read_write_quotes :
    text (.object [("a`b", .array [.string "it's]", .number (.int (-7))])]) =
        "\x7b`a``b`: ['it\\'s]', -7]\x7d" ∧
      read ((text (.object [("a`b", .array [.string "it's]", .number (.int (-7))])])).toList ++
          ", b".toList) =
        some (.map [("a`b", .list [.string "it's]", .number ['-', '7']])], ", b".toList) :=
  ⟨by decide, read_write.1 _ _ (by decide)⟩

end CypherFragments.Literal
