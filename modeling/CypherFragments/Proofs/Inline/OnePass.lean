import CypherFragments.Proofs.Inline.Legible
import Mathlib.Data.List.TakeWhile

/-!
# One pass over a text

A text is read once, from left to right, and a placeholder reaches as far as it can. So a text can
be cut wherever no placeholder reaches over the cut, and what is written for a placeholder is not
read again.

* `Text.read_induction`: a text begins with a placeholder, with a `$` that stands for itself, or
  with another character.
* `Query.scan_append`: reading splits at a cut.
* `Text.PlaceholderAt`: the placeholders of a text, said without reading it; `Query.mem_slots_scan`:
  they are the ones that are read.
-/

set_option autoImplicit false

namespace CypherFragments

namespace Text

/-! ## Placeholders in a text -/

/-- `$p` stands in the text after `before`, and no name character follows it. -/
def PlaceholderAt (s before : List Char) (p : String) : Prop :=
  ∃ rest, s = before ++ '$' :: (p.toList ++ rest) ∧ IsName p ∧ EndsName rest

/-- The text ends while a placeholder is being named: `$`, then nothing but name characters. -/
def EndsOpen (s : List Char) : Prop := ∃ a n, s = a ++ '$' :: n ∧ ∀ c ∈ n, isNameChar c = true

theorem EndsOpen.append {t : List Char} (h : EndsOpen t) (s : List Char) : EndsOpen (s ++ t) := by
  obtain ⟨a, n, rfl, hn⟩ := h
  exact ⟨s ++ a, n, (List.append_assoc s a _).symm, hn⟩

theorem endsName_dollar (r : List Char) : EndsName ('$' :: r) := .cons (by decide) r

theorem EndsName.of_append {r t : List Char} (h : EndsName (r ++ t)) : EndsName r := by
  cases r with
  | nil => exact .nil
  | cons c r => exact .cons (h c rfl) r

/-- What follows counts only after nothing. -/
theorem EndsName.append_of_nil {r t : List Char} (hr : EndsName r) (ht : r = [] → EndsName t) :
    EndsName (r ++ t) := by
  cases r with
  | nil => exact ht rfl
  | cons c r => exact .cons (hr c rfl) _

/-- The ways in which a text begins. -/
theorem read_induction {motive : List Char → Prop} (nil : motive [])
    (other : ∀ c t, c ≠ '$' → motive t → motive (c :: t))
    (dollar : ∀ t, EndsName t → motive t → motive ('$' :: t))
    (placeholder : ∀ p t, IsName p → EndsName t → motive t → motive ('$' :: (p.toList ++ t)))
    (s : List Char) : motive s := by
  induction hn : s.length using Nat.strong_induction_on generalizing s with
  | _ n ih =>
    subst hn
    match s with
    | [] => exact nil
    | c :: t =>
      by_cases hc : c = '$'
      · subst hc
        have hrun : t.takeWhile isNameChar ++ t.dropWhile isNameChar = t :=
          List.takeWhile_append_dropWhile
        have hend : EndsName (t.dropWhile isNameChar) := fun d hd => by
          have h := List.head?_dropWhile_not isNameChar t
          rwa [Option.mem_def.1 hd] at h
        have hchar : ∀ d ∈ t.takeWhile isNameChar, isNameChar d = true :=
          fun _ => List.mem_takeWhile_imp
        generalize t.takeWhile isNameChar = p, t.dropWhile isNameChar = r at *
        subst hrun
        have hr := ih r.length (by rw [List.length_cons, List.length_append]; omega) r rfl
        cases p with
        | nil => exact dollar r hend hr
        | cons d p =>
          have := placeholder (String.ofList (d :: p)) r ⟨by simp, by simpa using hchar⟩ hend hr
          rwa [String.toList_ofList] at this
      · exact other c t hc (ih t.length (by simp) t rfl)

/-- What stands before a `$` has its own placeholders, whatever follows. -/
theorem placeholderAt_append_dollar {s t b : List Char} {p : String} :
    PlaceholderAt (s ++ '$' :: t) b p ∧ b.length < s.length ↔ PlaceholderAt s b p := by
  constructor
  · rintro ⟨⟨rest, h, hp, hr⟩, hlt⟩
    obtain ⟨u, rfl⟩ : b <+: s := List.prefix_of_prefix_length_le (List.prefix_append _ _) ⟨_, h⟩
      (Nat.le_of_lt hlt)
    cases u with
    | nil => simp at hlt
    | cons c u =>
      rw [List.append_assoc, List.cons_append] at h
      obtain ⟨rfl, hu⟩ := List.cons.inj (List.append_cancel_left h)
      rcases List.append_eq_append_iff.1 hu with ⟨x, hx, ht⟩ | ⟨x, rfl, ht⟩
      · cases x with
        | nil => exact ⟨[], by rw [hx, List.append_nil, List.append_nil], hp, .nil⟩
        | cons d x =>
          -- The name would have the `$` in it.
          obtain ⟨rfl, -⟩ := List.cons.inj ht
          exact absurd rfl (ne_dollar_of_isNameChar (hp.2 '$' (by simp [hx])))
      · exact ⟨x, rfl, hp, .of_append (ht ▸ hr)⟩
  · rintro ⟨rest, rfl, hp, hr⟩
    refine ⟨⟨rest ++ '$' :: t, by simp, hp, hr.append (endsName_dollar t)⟩, ?_⟩
    rw [List.length_append, List.length_cons]
    omega

end Text

namespace Query

open Text

/-! ## Reading in two parts -/

/-- A `$` that no name follows stands for itself. -/
theorem scan_dollar {t : List Char} (h : EndsName t) : scan ('$' :: t) = .text "$" :: scan t := by
  have hn : t.takeWhile isNameChar = [] := takeWhile_name (s := []) (by simp) h
  rw [scan, if_pos rfl]
  simp [hn]

/-- **Reading splits** where no placeholder reaches over the cut. -/
theorem scan_append {s r : List Char} (h : EndsOpen s → EndsName r) :
    scan (s ++ r) = scan s ++ scan r := by
  induction s using read_induction with
  | nil => simp [scan]
  | other c t hc ih =>
    rw [List.cons_append, scan_text hc, scan_text hc, ih fun ho => h (ho.append [c]),
      List.cons_append]
  | dollar t ht ih =>
    have hr : EndsName (t ++ r) := ht.append_of_nil fun hn => h ⟨[], [], by rw [hn]; rfl, by simp⟩
    rw [List.cons_append, scan_dollar hr, scan_dollar ht, ih fun ho => h (ho.append ['$']),
      List.cons_append]
  | placeholder p t hp ht ih =>
    have hr : EndsName (t ++ r) :=
      ht.append_of_nil fun hn => h ⟨[], p.toList, by rw [hn, List.append_nil]; rfl, hp.2⟩
    rw [List.cons_append, List.append_assoc, scan_slot hp hr, scan_slot hp ht,
      ih fun ho => h (ho.append ('$' :: p.toList)), List.cons_append]

theorem scan_placeholder {b r : List Char} {p : String} (hp : IsName p) (hr : EndsName r) :
    scan (b ++ '$' :: (p.toList ++ r)) = scan b ++ .slot p :: scan r := by
  rw [scan_append fun _ => endsName_dollar _, scan_slot hp hr]

/-! ## The parameters that are read -/

/-- A parameter that is read comes from a placeholder, and so do those read before it. -/
theorem placeholderAt_of_slots {s : List Char} {p : String} {l l' : List String}
    (h : (scan s).slots = l ++ p :: l') : ∃ b, PlaceholderAt s b p ∧ (scan b).slots = l := by
  induction s using read_induction generalizing l with
  | nil => simp [scan, slots] at h
  | other c t hc ih =>
    rw [scan_text hc] at h
    obtain ⟨b, ⟨r, rfl, hp, hr⟩, rfl⟩ := ih h
    exact ⟨c :: b, ⟨r, rfl, hp, hr⟩, by rw [scan_text hc]; rfl⟩
  | dollar t ht ih =>
    rw [scan_dollar ht] at h
    obtain ⟨b, ⟨r, rfl, hp, hr⟩, rfl⟩ := ih h
    exact ⟨'$' :: b, ⟨r, rfl, hp, hr⟩, by rw [scan_dollar ht.of_append]; rfl⟩
  | placeholder n t hn ht ih =>
    have hs : n :: (scan t).slots = l ++ p :: l' := by
      rw [scan_slot hn ht] at h
      exact h
    cases l with
    | nil =>
      obtain ⟨rfl, -⟩ := List.cons.inj hs
      exact ⟨[], ⟨t, rfl, hn, ht⟩, by rw [scan]; rfl⟩
    | cons x l =>
      obtain ⟨rfl, hl⟩ := List.cons.inj hs
      obtain ⟨b, ⟨r, rfl, hp, hr⟩, rfl⟩ := ih hl
      refine ⟨'$' :: (n.toList ++ b), ⟨r, ?_, hp, hr⟩, ?_⟩
      · rw [List.cons_append, List.append_assoc]
      · rw [scan_slot hn ht.of_append]
        rfl

theorem mem_slots_scan {s : List Char} {p : String} :
    p ∈ (scan s).slots ↔ ∃ b, PlaceholderAt s b p := by
  constructor
  · intro h
    obtain ⟨l, l', hl⟩ := List.append_of_mem h
    obtain ⟨b, hb, -⟩ := placeholderAt_of_slots hl
    exact ⟨b, hb⟩
  · rintro ⟨b, r, rfl, hp, hr⟩
    rw [scan_placeholder hp hr, slots_append]
    exact List.mem_append_right _ List.mem_cons_self

/-! ## Filling in two parts -/

/-- A text in front of two joined results is one in front of the first. -/
theorem map_join {ε : Type} (s : String) (x y : Except ε String) :
    Except.map (s ++ ·) (do return (← x) ++ (← y)) = do return (← x.map (s ++ ·)) ++ (← y) := by
  cases x with
  | error e => rfl
  | ok a => cases y <;> simp [Except.map, bind, Except.bind, pure, Except.pure, String.append_assoc]

theorem fill_append (params : Params) : ∀ p q : Query,
    (p ++ q).fill params = do return (← p.fill params) ++ (← q.fill params)
  | [], q => by
    cases hq : q.fill params <;> simp [fill, hq, bind, Except.bind, pure, Except.pure]
  | .text s :: p, q => by
    rw [List.cons_append, fill, fill, fill_append params p q, map_join]
  | .slot n :: p, q => by
    rw [List.cons_append, fill, fill, fill_append params p q]
    cases params.get? n with
    | none => rfl
    | some v => exact map_join _ _ _

theorem fill_eq_error {params : Params} {q : Query} {p : String} :
    q.fill params = .error ⟨p⟩ ↔ q.slots.find? (fun p => (params.get? p).isNone) = some p := by
  rw [fill_eq]
  cases q.slots.find? fun p => (params.get? p).isNone <;> simp

theorem fill_congr {params params' : Params} {q : Query}
    (h : ∀ p ∈ q.slots, params'.get? p = params.get? p) : q.fill params' = q.fill params := by
  induction q with
  | nil => rfl
  | cons x q ih =>
    cases x with
    | text s => rw [fill, fill, ih h]
    | slot p =>
      obtain ⟨hp, hq⟩ := List.forall_mem_cons.1 h
      rw [fill, fill, hp, ih hq]

end Query

/-! ## Inlining -/

open Text Query

/-- The placeholder of `p` has no value, and no other one without a value stands before it. -/
def FirstUnbound (params : Params) (s : List Char) (p : String) : Prop :=
  ∃ before, PlaceholderAt s before p ∧ params.get? p = none ∧
    ∀ b n, PlaceholderAt s b n → params.get? n = none → before.length ≤ b.length

section
variable {params : Params}

theorem inline_append {s t : String} (h : EndsOpen s.toList → EndsName t.toList) :
    inline (s ++ t) params = do return (← inline s params) ++ (← inline t params) := by
  unfold inline ofString
  rw [String.toList_append, scan_append h, fill_append]

theorem inline_dollarless {s : String} (h : Dollarless s) : inline s params = .ok s := by
  have := fill_scan_append params h []
  rw [List.append_nil, String.ofList_toList, scan] at this
  rw [inline, ofString, this]
  simp [fill, Except.map]

theorem inline_dollar {t : String} (h : EndsName t.toList) :
    inline ("$" ++ t) params = (inline t params).map ("$" ++ ·) := by
  rw [inline, ofString, String.toList_append]
  exact (congrArg (fill params) (scan_dollar h)).trans rfl

theorem inline_placeholder {p : String} (hp : IsName p) :
    inline ("$" ++ p) params =
      match params.get? p with
      | some v => .ok (Literal.text v)
      | none => .error ⟨p⟩ := by
  have h : scan ("$" ++ p).toList = [.slot p] := by
    rw [String.toList_append, ← List.append_nil p.toList]
    exact (scan_slot hp .nil).trans (by rw [scan])
  rw [inline, ofString, h, fill]
  cases params.get? p with
  | none => rfl
  | some v => simp [fill, Except.map]

theorem inline_filled {before p after : String} {v : Json} (hp : IsName p)
    (ha : EndsName after.toList) (hv : params.get? p = some v) :
    inline (before ++ ("$" ++ p) ++ after) params = do
      return (← inline before params) ++ Literal.text v ++ (← inline after params) := by
  have hd : EndsName ("$" ++ p).toList := by
    rw [String.toList_append]
    exact endsName_dollar _
  rw [inline_append fun _ => ha, inline_append fun _ => hd, inline_placeholder hp, hv]
  cases inline before params <;> rfl

/-- **The first placeholder without a value is reported.** -/
theorem inline_eq_error {s p : String} :
    inline s params = .error ⟨p⟩ ↔ FirstUnbound params s.toList p := by
  rw [inline, ofString, fill_eq_error, List.find?_eq_some_iff_append]
  constructor
  · rintro ⟨hn, l, l', hl, hbound⟩
    obtain ⟨before, hb, rfl⟩ := placeholderAt_of_slots hl
    refine ⟨before, hb, Option.isNone_iff_eq_none.1 hn, fun b n hbn hnone => ?_⟩
    obtain ⟨rest, hs, -⟩ := hb
    -- A placeholder that stands further left is one of the text before, where all have values.
    refine Nat.le_of_not_lt fun hlt => ?_
    have hmem := mem_slots_scan.2 ⟨b, placeholderAt_append_dollar.1 ⟨hs ▸ hbn, hlt⟩⟩
    simpa [hnone] using hbound n hmem
  · rintro ⟨before, ⟨rest, hs, hp, hr⟩, hn, hfirst⟩
    refine ⟨Option.isNone_iff_eq_none.2 hn, (scan before).slots, (scan rest).slots, ?_,
      fun n hmem => ?_⟩
    · rw [hs, scan_placeholder hp hr, slots_append]
      rfl
    · obtain ⟨b, hb⟩ := mem_slots_scan.1 hmem
      obtain ⟨hbn, hlt⟩ := placeholderAt_append_dollar (t := p.toList ++ rest).2 hb
      cases hg : params.get? n with
      | some v => rfl
      | none => exact absurd (hfirst b n (hs ▸ hbn) hg) (Nat.not_le_of_lt hlt)

theorem inline_fails {s : String} :
    (∃ e, inline s params = .error e) ↔
      ∃ b p, PlaceholderAt s.toList b p ∧ params.get? p = none := by
  constructor
  · rintro ⟨⟨p⟩, h⟩
    obtain ⟨b, hb, hp, -⟩ := inline_eq_error.1 h
    exact ⟨b, p, hb, hp⟩
  · rintro ⟨b, p, hb, hp⟩
    have hsome : ((scan s.toList).slots.find? fun p => (params.get? p).isNone).isSome := by
      rw [List.find?_isSome]
      exact ⟨p, mem_slots_scan.2 ⟨b, hb⟩, Option.isNone_iff_eq_none.2 hp⟩
    obtain ⟨n, hn⟩ := Option.isSome_iff_exists.1 hsome
    exact ⟨⟨n⟩, fill_eq_error.2 hn⟩

theorem inline_congr {params' : Params} {s : String}
    (h : ∀ b p, PlaceholderAt s.toList b p → params'.get? p = params.get? p) :
    inline s params' = inline s params := by
  refine fill_congr fun p hp => ?_
  obtain ⟨b, hb⟩ := mem_slots_scan.1 hp
  exact h b p hb

end

/-- **Inlining is one pass.** It splits over texts unless the first ends inside a placeholder that
the second goes on with. A name is taken as far as it reaches, a `$` without a name stays, and so
does everything else. The call fails iff some placeholder has no value, with the first of them;
literals go in as they are, and parameters that have no placeholder do not count. -/
theorem inline_onePass (params : Params) :
    (∀ s t : String, ¬ (EndsOpen s.toList ∧ ¬ EndsName t.toList) →
      inline (s ++ t) params = do return (← inline s params) ++ (← inline t params)) ∧
    (∀ p, IsName p → inline ("$" ++ p) params =
      match params.get? p with
      | some v => .ok (Literal.text v)
      | none => .error ⟨p⟩) ∧
    (∀ t : String, EndsName t.toList →
      inline ("$" ++ t) params = (inline t params).map ("$" ++ ·)) ∧
    (∀ s, Dollarless s → inline s params = .ok s) ∧
    (∀ s : String, (∃ e, inline s params = .error e) ↔
      ∃ b p, PlaceholderAt s.toList b p ∧ params.get? p = none) ∧
    (∀ s p : String, inline s params = .error ⟨p⟩ ↔ FirstUnbound params s.toList p) ∧
    (∀ (before p after : String) (v : Json), IsName p → EndsName after.toList →
      params.get? p = some v → inline (before ++ ("$" ++ p) ++ after) params = do
        return (← inline before params) ++ Literal.text v ++ (← inline after params)) ∧
    ∀ (params' : Params) (s : String),
      (∀ b p, PlaceholderAt s.toList b p → params'.get? p = params.get? p) →
        inline s params' = inline s params :=
  ⟨fun _ _ h => inline_append fun ho => Classical.not_not.1 fun hn => h ⟨ho, hn⟩,
    fun _ hp => inline_placeholder hp, fun _ ht => inline_dollar ht,
    fun _ hs => inline_dollarless hs, fun _ => inline_fails, fun _ _ => inline_eq_error,
    fun _ _ _ _ hp ha hv => inline_filled hp ha hv, fun _ _ h => inline_congr h⟩

/-- A `$` in front of a placeholder, a value that holds a placeholder's text, and a name that goes
on after that of a parameter. -/
theorem inline_onePass_dollars :
    let params : Params := .ofList [("id", .string "$ident"), ("ident", .bool true)]
    inline "$$id-$ident" params = .ok "$'$ident'-true" ∧
      inline "$$id-$identity" params = .error ⟨"identity"⟩ ∧
      FirstUnbound params "$$id-$identity".toList "identity" := by
  intro params
  obtain ⟨split, name, dollar, plain, -, first, filled, -⟩ := inline_onePass params
  have hd : inline "$" params = .ok "$" :=
    (dollar "" .nil).trans (by rw [plain "" (by decide)]; rfl)
  have hlead : inline "$$id-" params = .ok "$'$ident'-" := by
    refine (filled "$" "id" "-" _ (by decide) (.cons (by decide) _) rfl).trans ?_
    rw [hd, plain "-" (by decide)]
    rfl
  have hcut (n : String) (hn : IsName n) :
      inline ("$$id-" ++ ("$" ++ n)) params =
        (do return "$'$ident'-" ++ (← inline ("$" ++ n) params)) := by
    have he : EndsName ("$" ++ n).toList := String.toList_append ▸ endsName_dollar _
    rw [split _ _ fun h => h.2 he, hlead]
    rfl
  have herr : inline "$$id-$identity" params = .error ⟨"identity"⟩ :=
    (hcut "identity" (by decide)).trans (by rw [name _ (by decide)]; rfl)
  refine ⟨(hcut "ident" (by decide)).trans ?_, herr, (first _ _).1 herr⟩
  rw [name _ (by decide)]
  rfl

end CypherFragments
