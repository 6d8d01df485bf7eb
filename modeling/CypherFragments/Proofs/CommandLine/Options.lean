import CypherFragments.CommandLine.Invocation
import CypherFragments.Proofs.Operation
import Mathlib.Data.List.Basic

/-!
# Options of a command line

An option that no argument spells is not given: `Given.Lacks` is kept by each argument
(`Given.Lacks.add`) and so by all of them (`Given.Lacks.read`). A request for a relationship is made
of what was given (`read_edge`).
-/

set_option autoImplicit false

namespace CypherFragments.CommandLine

/-- The argument is the option, alone or with a value after an equals sign. -/
def Spells (arg name : String) : Prop :=
  arg = "--" ++ name ∨ ("--" ++ name ++ "=").toList <+: arg.toList

instance (arg name : String) : Decidable (Spells arg name) := inferInstanceAs (Decidable (_ ∨ _))

theorem spells_splitLong (cs : List Char) :
    Spells (String.ofList ('-' :: '-' :: cs)) (Given.splitLong cs).1 := by
  have hc : cs = cs.takeWhile (· != '=') ++ cs.dropWhile (· != '=') :=
    List.takeWhile_append_dropWhile.symm
  cases hd : cs.dropWhile (· != '=') with
  | nil =>
    rw [hd, List.append_nil] at hc
    refine .inl (String.toList_inj.1 ?_)
    simp [Given.splitLong, ← hc]
  | cons c value =>
    have he : c = '=' := by
      have h := List.head?_dropWhile_not (· != '=') cs
      rw [hd] at h
      simpa using h
    rw [hd, he] at hc
    refine .inr ⟨value, ?_⟩
    conv => rhs; rw [hc]
    simp [Given.splitLong]

namespace Given

/-- The option has not been given, nor is it waiting for its value. -/
structure Lacks (g : Given) (name : String) : Prop where
  values : ∀ p ∈ g.values, p.1 ≠ name
  pending : ∀ p ∈ g.pending, p.1.name ≠ name

variable {g g' : Given} {name : String} {s : Options}

theorem lacks_nil (name : String) : ({} : Given).Lacks name :=
  ⟨fun _ hp => absurd hp List.not_mem_nil, fun p hp => absurd hp (Option.not_mem_none p)⟩

theorem Lacks.all (hg : g.Lacks name) : g.all name = [] := by
  unfold Given.all
  rw [List.map_eq_nil_iff, List.filter_eq_nil_iff]
  exact fun p hp h => hg.values p hp (beq_iff_eq.1 h)

theorem Lacks.entries (hg : g.Lacks name) : g.entries name = [] := by
  rw [Given.entries, hg.all]
  rfl

/-! ## One argument -/

theorem Lacks.record (hg : g.Lacks name) {o : Opt} {value : String} (ho : o.name ≠ name)
    (h : g.record o value = .ok g') : g'.Lacks name := by
  unfold Given.record at h
  split at h
  · cases h
  · obtain rfl := Except.ok.inj h
    refine ⟨fun p hp => ?_, hg.pending⟩
    rcases List.mem_append.1 hp with hp | hp
    · exact hg.values p hp
    · rw [List.mem_singleton.1 hp]
      exact ho

theorem Lacks.resolve (hg : g.Lacks name) (h : g.resolve = .ok g') : g'.Lacks name := by
  unfold Given.resolve at h
  split at h
  · exact Except.ok.inj h ▸ hg
  · cases h
  · rename_i o value hp
    have hn : ({ g with pending := none } : Given).Lacks name :=
      ⟨hg.values, fun p hp => absurd hp (Option.not_mem_none p)⟩
    exact hn.record (hg.pending _ hp) h

/-- A letter tells something and reads nothing. -/
theorem letter_ne_ok (s : Options) (g : Given) (c : Char) : g.letter s c ≠ .ok g' := by
  unfold letter
  split
  · cases g.resolve <;> simp [bind, Except.bind]
  · split
    · cases g.resolve <;> simp [bind, Except.bind]
    · simp

theorem Lacks.long (hg : g.Lacks name) {spelled : String} {value : Option String}
    (hn : spelled ≠ name) (h : g.long s spelled value = .ok g') : g'.Lacks name := by
  unfold Given.long at h
  split at h
  · rename_i o ho
    have hs := List.find?_some ho
    have ho : o.name ≠ name := beq_iff_eq.1 hs ▸ hn
    obtain ⟨g₁, h₁, h⟩ := Except.bind_eq_ok.1 h
    have hg₁ := hg.resolve h₁
    split at h
    · exact hg₁.record ho h
    · cases h
    · obtain rfl := Except.ok.inj h
      refine ⟨hg₁.values, fun p hp => ?_⟩
      obtain rfl := Option.some.inj hp
      exact ho
    · exact hg₁.record ho h
  · split at h
    · cases h
    · split at h
      · exact absurd h (letter_ne_ok s g 'h')
      · split at h
        · exact absurd h (letter_ne_ok s g 'V')
        · cases h

/-- An argument that does not spell the option does not give it: a value is one of the option that
waits for it. -/
theorem Lacks.add (hg : g.Lacks name) {arg : String} (ha : ¬ Spells arg name)
    (h : g.add s arg = .ok g') : g'.Lacks name := by
  unfold Given.add at h
  split at h
  · cases h
  split at h
  · obtain rfl := Except.ok.inj h
    exact ⟨hg.values, hg.pending⟩
  · rename_i cs _ hc
    have hs := spells_splitLong cs
    rw [← hc, String.ofList_toList] at hs
    exact hg.long (fun hn => ha (hn ▸ hs)) h
  · exact absurd h (letter_ne_ok s g _)
  · split at h
    · rename_i o hp
      obtain rfl := Except.ok.inj h
      refine ⟨hg.values, fun p hp' => ?_⟩
      obtain rfl := Option.some.inj hp'
      exact hg.pending (o, none) hp
    · cases h

/-! ## All arguments -/

variable {subcommands : List String} {rest : Option (String × List String)}

theorem Lacks.read {args : List String} (hg : g.Lacks name)
    (ha : ∀ arg ∈ args, ¬ Spells arg name)
    (h : g.read s subcommands args = .ok (g', rest)) : g'.Lacks name := by
  induction args generalizing g with
  | nil =>
    obtain ⟨rfl, -⟩ := Prod.mk.inj (Except.ok.inj h)
    exact hg
  | cons arg args ih =>
    unfold Given.read at h
    split at h
    · obtain ⟨rfl, -⟩ := Prod.mk.inj (Except.ok.inj h)
      exact hg
    · split at h
      · cases h
      · rename_i g₁ h₁
        exact ih (hg.add (ha arg List.mem_cons_self) h₁)
          (fun a hm => ha a (List.mem_cons_of_mem _ hm)) h

/-- The arguments of a subcommand are among those of the command line. -/
theorem mem_of_read {args rest : List String} {subcommand : String}
    (h : g.read s subcommands args = .ok (g', some (subcommand, rest))) :
    ∀ arg ∈ rest, arg ∈ args := by
  induction args generalizing g with
  | nil => cases h
  | cons a args ih =>
    unfold Given.read at h
    split at h
    · obtain ⟨-, hr⟩ := Prod.mk.inj (Except.ok.inj h)
      obtain ⟨-, rfl⟩ := Prod.mk.inj (Option.some.inj hr)
      exact fun arg hm => List.mem_cons_of_mem _ hm
    · split at h
      · cases h
      · exact fun arg hm => List.mem_cons_of_mem _ (ih h arg hm)

/-! ## Requests for relationships -/

theorem matches_edgeRequest {g : Given} {r : EdgeRequest} (h : g.edgeRequest? = some r) :
    r.startMatch = g.entries "start-match" ∧ r.endMatch = g.entries "end-match" ∧
      r.edgeMatch = g.entries "edge-match" := by
  simp only [edgeRequest?, Option.bind_eq_bind, Option.bind_eq_some_iff, Option.pure_def,
    Option.some.injEq] at h
  obtain ⟨s, -, t, -, e, -, rfl⟩ := h
  exact ⟨rfl, rfl, rfl⟩

theorem edgeRequest_of_command {g : Given} {subcommand : String} {r : EdgeRequest}
    (h : g.command? subcommand = some (.edge r)) : g.edgeRequest? = some r := by
  unfold command? at h
  split at h
  · obtain ⟨r', hr, he⟩ := Option.map_eq_some_iff.1 h
    exact Command.edge.inj he ▸ hr
  · obtain ⟨source, -, h⟩ := Option.bind_eq_some_iff.1 h
    split at h <;> cases h

end Given

/-- The request is made of options, and has none that no argument spells. -/
theorem read_edge {args : List String} {i : Invocation} {r : EdgeRequest} (h : read args = .ok i)
    (hr : i.command = .edge r) : ∃ g : Given, g.edgeRequest? = some r ∧
      ∀ name, (∀ arg ∈ args, ¬ Spells arg name) → g.Lacks name := by
  obtain ⟨⟨g, sub⟩, hg, h⟩ := Except.bind_eq_ok.1 h
  dsimp only at h
  split at h
  · cases h
  · cases h
  · obtain ⟨⟨s, _⟩, hs, h⟩ := Except.bind_eq_ok.1 h
    obtain ⟨s', hs', h⟩ := Except.bind_eq_ok.1 h
    split at h
    · cases h
    · rename_i command hc
      obtain ⟨g', -, h⟩ := Except.bind_eq_ok.1 h
      obtain rfl := Except.ok.inj h
      obtain rfl : command = .edge r := hr
      -- What is given before the subcommand configures the program and is not in the request.
      refine ⟨s', Given.edgeRequest_of_command hc, fun name hn => ?_⟩
      have ha := Given.mem_of_read hg
      exact ((Given.lacks_nil name).read (fun arg hm => hn arg (ha arg hm)) hs).resolve hs'

end CypherFragments.CommandLine
