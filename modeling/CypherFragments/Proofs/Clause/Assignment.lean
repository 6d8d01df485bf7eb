import CypherFragments.CommandLine.Run
import CypherFragments.Proofs.Clause.Collected
import Mathlib.Data.List.Basic

/-!
# Entries written as TEMPLATE=PARAM

A text is an entry if its last equals sign has something on both sides, and then it is one entry
only. So entries that are written on a command line are read back, and the clause that is collected
from them is not empty.

* `MatchEntry.splitLast_eq_some_iff`: where the last separator divides a text.
* `MatchEntry.ofAssignment?_eq_some_iff`: the texts of an entry.
* `CommandLine.Given.read_spellings`: an option that is given once for each entry, by induction on
  the entries.
-/

set_option autoImplicit false

namespace CypherFragments

/-! ## One entry -/

namespace MatchEntry

/-- The text of an entry. -/
def assignment (e : String × String) : String := e.1 ++ "=" ++ e.2

/-- Nothing is missing, and the last equals sign of the text is the one that divides it. -/
structure Assignable (e : String × String) : Prop where
  template : e.1 ≠ ""
  param : e.2 ≠ ""
  undivided : '=' ∉ e.2.toList

instance : DecidablePred Assignable := fun e =>
  decidable_of_iff (e.1 ≠ "" ∧ e.2 ≠ "" ∧ '=' ∉ e.2.toList)
    ⟨fun h => ⟨h.1, h.2.1, h.2.2⟩, fun h => ⟨h.template, h.param, h.undivided⟩⟩

section
variable {sep : Char} {s a b : List Char}

theorem splitLast_eq_none_iff : splitLast sep s = none ↔ sep ∉ s := by
  induction s with
  | nil => simp [splitLast]
  | cons c s ih =>
    rw [splitLast, List.mem_cons, not_or, ← ih]
    cases splitLast sep s with
    | some q => simp
    | none => simp [eq_comm]

theorem splitLast_append (hb : sep ∉ b) : ∀ a, splitLast sep (a ++ sep :: b) = some (a, b)
  | [] => by simp [splitLast, splitLast_eq_none_iff.2 hb]
  | c :: a => by rw [List.cons_append, splitLast, splitLast_append hb a]

theorem splitLast_eq_some_iff : splitLast sep s = some (a, b) ↔ s = a ++ sep :: b ∧ sep ∉ b := by
  constructor
  · intro h
    have hm : sep ∈ s := by
      rw [← Classical.not_not (a := sep ∈ s), ← splitLast_eq_none_iff, h]
      exact Option.some_ne_none _
    -- The last separator is the first one from behind.
    obtain ⟨u, v, hr, hu⟩ := List.eq_append_cons_of_mem (List.mem_reverse.2 hm)
    have hs : s = v.reverse ++ sep :: u.reverse := by
      rw [← List.reverse_inj, hr]
      simp
    have hu : sep ∉ u.reverse := fun hu' => hu (List.mem_reverse.1 hu')
    rw [hs, splitLast_append hu] at h
    obtain ⟨rfl, rfl⟩ := Prod.mk.inj (Option.some.inj h)
    exact ⟨hs, hu⟩
  · rintro ⟨rfl, hb⟩
    exact splitLast_append hb a

end

theorem toList_assignment (e : String × String) :
    (assignment e).toList = e.1.toList ++ '=' :: e.2.toList := by
  simp [assignment]

/-- A text is read as the entry that it was written for, and no other text is read. -/
theorem ofAssignment?_eq_some_iff {s : String} {e : String × String} :
    ofAssignment? s = some e ↔ s = assignment e ∧ Assignable e := by
  constructor
  · intro h
    unfold ofAssignment? at h
    split at h
    · rename_i t p hs
      split at h
      · cases h
      · rename_i hne
        obtain rfl := Option.some.inj h
        obtain ⟨hs, hp⟩ := splitLast_eq_some_iff.1 hs
        rw [Bool.or_eq_true, not_or, List.isEmpty_iff, List.isEmpty_iff] at hne
        refine ⟨?_, ?_, ?_, ?_⟩
        · rw [← String.toList_inj, toList_assignment, hs]
          simp
        · simpa using hne.1
        · simpa using hne.2
        · simpa using hp
    · cases h
  · rintro ⟨rfl, h⟩
    have hs : splitLast '=' (assignment e).toList = some (e.1.toList, e.2.toList) :=
      splitLast_eq_some_iff.2 ⟨toList_assignment e, h.undivided⟩
    unfold ofAssignment?
    rw [hs]
    simp [h.template, h.param]

theorem ofAssignment?_assignment {e : String × String} (h : Assignable e) :
    ofAssignment? (assignment e) = some e :=
  ofAssignment?_eq_some_iff.2 ⟨rfl, h⟩

theorem mapM_ofAssignment? {l : Entries} (h : ∀ e ∈ l, Assignable e) :
    (l.map assignment).mapM ofAssignment? = some l := by
  induction l with
  | nil => rfl
  | cons e l ih =>
    have he := ofAssignment?_assignment (h e List.mem_cons_self)
    have hl := ih fun e' he' => h e' (List.mem_cons_of_mem _ he')
    rw [List.map_cons, List.mapM_cons, he, hl]
    rfl

end MatchEntry

/-! ## Options that take entries -/

namespace CommandLine.Given

open MatchEntry

/-- The argument that gives the option a value. -/
def spelling (name value : String) : String := "--" ++ name ++ "=" ++ value

variable {s : Options} {name : String}

theorem splitLong_append (hn : '=' ∉ name.toList) (value : String) :
    splitLong (name.toList ++ '=' :: value.toList) = (name, some value) := by
  have ht : (name.toList ++ '=' :: value.toList).takeWhile (· != '=') = name.toList := by
    rw [List.takeWhile_append_of_pos]
    · simp
    · exact fun c hc => bne_iff_ne.2 fun e => hn (e ▸ hc)
  simp [splitLong, ht]

theorem add_long {g : Given} (he : g.ended = false) {arg : String} {cs : List Char}
    (ha : arg.toList = '-' :: '-' :: cs) (hc : cs ≠ []) :
    g.add s arg = g.long s (splitLong cs).1 (splitLong cs).2 := by
  rw [add, he, ha]
  cases cs with
  | nil => exact absurd rfl hc
  | cons c cs => rfl

section
variable (hs : s.list.find? (·.name == name) = some (matching name)) (hn : '=' ∉ name.toList)
include hs hn

/-- An argument with an entry adds it to what has been given. -/
theorem add_spelling {g : Given} (hp : g.pending = none) (he : g.ended = false) {value : String}
    (hv : isAssignment value = true) :
    g.add s (spelling name value) = .ok { g with values := g.values ++ [(name, value)] } := by
  have ha : (spelling name value).toList = '-' :: '-' :: (name.toList ++ '=' :: value.toList) := by
    simp [spelling]
  have hlong : g.long s name (some value) = g.record (matching name) value := by
    simp [long, hs, resolve, hp, matching]
    rfl
  rw [add_long he ha (by simp), splitLong_append hn, hlong]
  simp [record, matching, hv]

/-- Entries that are spelled one after the other are all given, in their order. -/
theorem read_spellings {l : Entries} (hl : ∀ e ∈ l, Assignable e) {g : Given}
    (hp : g.pending = none) (he : g.ended = false) :
    read s [] g (l.map fun e => spelling name (assignment e)) =
      .ok ({ g with values := g.values ++ l.map fun e => (name, assignment e) }, none) := by
  induction l generalizing g with
  | nil => simp [read]
  | cons e l ih =>
    have hv : isAssignment (assignment e) = true := by
      rw [isAssignment, ofAssignment?_assignment (hl e List.mem_cons_self)]
      rfl
    have ha := add_spelling hs hn hp he hv
    have hc : [].contains (spelling name (assignment e)) = false := List.contains_nil
    have hg : g.values ++ (name, assignment e) :: l.map (fun e => (name, assignment e)) =
        g.values ++ [(name, assignment e)] ++ l.map fun e => (name, assignment e) :=
      List.append_cons _ _ _
    rw [List.map_cons, read, hc, Bool.and_false, ha, List.map_cons, hg]
    exact ih (g := { g with values := g.values ++ [(name, assignment e)] })
      (fun e' he' => hl e' (List.mem_cons_of_mem _ he')) hp he

/-- What is given by spelling entries are these entries. -/
theorem read_assignments {l : Entries} (hl : ∀ e ∈ l, Assignable e) :
    ∃ g, read s [] {} (l.map fun e => spelling name (assignment e)) = .ok (g, none) ∧
      g.resolve = .ok g ∧ g.entries name = l := by
  let g : Given := { values := l.map fun e => (name, assignment e) }
  refine ⟨g, read_spellings hs hn hl rfl rfl, rfl, ?_⟩
  have ha : g.all name = l.map assignment := by
    simp only [g, all, List.filter_map, Function.comp_def, beq_self_eq_true, List.filter_true,
      List.map_map]
  have hf : l.filterMap (ofAssignment? ∘ assignment) = l.filterMap some :=
    List.filterMap_congr fun e he => ofAssignment?_assignment (hl e he)
  rw [entries, ha, List.filterMap_map, hf, List.filterMap_some]

end

end CommandLine.Given

/-! ## Clauses -/

theorem MatchClause.isEmpty_ofList {l : Entries} (hl : l ≠ []) :
    (MatchClause.ofList l).isEmpty = false := by
  obtain ⟨e, l, rfl⟩ := List.exists_cons_of_ne_nil hl
  have hm : e.1 ∈ (MatchClause.ofList (e :: l)).templates := by
    rw [MatchClause.templates_ofList, List.mem_eraseDups]
    exact List.mem_cons_self
  obtain ⟨e', he', -⟩ := List.mem_map.1 hm
  exact List.isEmpty_eq_false_iff.2 (List.ne_nil_of_mem he')

namespace MatchEntry

open CommandLine Given

/-- **A text is an entry iff it is a template, an equals sign and a parameter**, both of them not
empty and the parameter without an equals sign; then it is one entry only. Entries that are given
on a command line are the clause collected from them, and no clause that is chosen is empty. -/
theorem assignment_exact :
    (∀ (s : String) (e : String × String),
      ofAssignment? s = some e ↔ s = assignment e ∧ Assignable e) ∧
    (∀ s : String, ofAssignment? s = none ↔ ∀ e, Assignable e → s ≠ assignment e) ∧
    (∀ e e' : String × String, Assignable e → Assignable e' → assignment e = assignment e' →
      e = e') ∧
    (∀ l : Entries, l ≠ [] → (∀ e ∈ l, Assignable e) →
      (l.map assignment).mapM ofAssignment? = some l ∧
      ∀ (s : Options) (name : String), s.list.find? (·.name == name) = some (matching name) →
        '=' ∉ name.toList →
        ∃ g, Given.read s [] {} (l.map fun e => spelling name (assignment e)) = .ok (g, none) ∧
          g.resolve = .ok g ∧ Entries.choice (g.entries name) = .custom (.ofList l)) ∧
    ∀ (l : Entries) (c : MatchClause), Entries.choice l = .custom c → c.isEmpty = false := by
  have hchoice {l : Entries} (hl : l ≠ []) : Entries.choice l = .custom (.ofList l) :=
    if_neg (mt List.isEmpty_iff.1 hl)
  refine ⟨fun s e => ofAssignment?_eq_some_iff, fun s => ?_, fun e e' he he' h => ?_,
    fun l hl ha => ⟨mapM_ofAssignment? ha, fun s name hs hn => ?_⟩, fun l c hc => ?_⟩
  · rw [Option.eq_none_iff_forall_ne_some]
    refine forall_congr' fun e => ?_
    rw [ne_eq, ofAssignment?_eq_some_iff, and_comm, not_and]
  · have h' := ofAssignment?_assignment he
    rw [h, ofAssignment?_assignment he'] at h'
    exact (Option.some.inj h').symm
  · obtain ⟨g, hg, hr, he⟩ := read_assignments hs hn ha
    refine ⟨g, hg, hr, ?_⟩
    rw [he]
    exact hchoice hl
  · by_cases hl : l = []
    · subst hl
      cases hc
    · rw [hchoice hl] at hc
      obtain rfl := ClauseChoice.custom.inj hc
      exact MatchClause.isEmpty_ofList hl

/-- Templates that hold an equals sign and look like an option. Nothing may be missing on either
side of the last sign. -/
theorem assignment_exact_compared :
    let entries : Entries := [("a=b", "c"), ("-x", "y"), ("a=b", "z")]
    (∀ s ∈ ["=", "a=", "=b", "a==", "a=b=", "ab"], ofAssignment? s = none) ∧
      ofAssignment? "a=b=c" = some ("a=b", "c") ∧
      (entries.map assignment).mapM ofAssignment? = some entries ∧
      ∃ g, Given.read { list := (subcommandOptions.lookup "match").getD [] } [] {}
          ["--match=a=b=c", "--match=-x=y", "--match=a=b=z"] = .ok (g, none) ∧
        g.resolve = .ok g ∧
        Entries.choice (g.entries "match") = .custom ⟨[⟨"a=b", "z"⟩, ⟨"-x", "y"⟩]⟩ := by
  intro entries
  obtain ⟨hs, -, -, hl, -⟩ := assignment_exact
  obtain ⟨hm, hg⟩ := hl entries (by decide) (by decide)
  exact ⟨by decide, (hs _ _).2 ⟨by decide, by decide⟩, hm, hg _ "match" (by rfl) (by decide)⟩

end MatchEntry

end CypherFragments
