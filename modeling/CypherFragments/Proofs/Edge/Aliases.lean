import CypherFragments.Proofs.Config.Rules
import CypherFragments.Proofs.Edge.Parameters

/-!
# The variables of a relationship statement

A relationship statement names its start, the relationship and its end, each by a configured
variable. Validation compares the two ends only.

* `Statement.namesAliases_createEdge`, `Statement.namesAliases_updateEdge`: where a statement writes
  its three variables.
* `Compiler.aliases_callEdge`: they are the configured ones. The ends always differ, and the
  relationship differs from both only if it is configured so (`Compiler.aliases_callEdge_clash`).
-/

set_option autoImplicit false

namespace CypherFragments

/-- The text finds the ends `a` and `b`, joins them by the relationship `r`, and returns the three
in the order in which they are joined, if it returns anything. -/
def NamesAliases (q a r b : String) (direction : Direction) (returned : Bool) : Prop :=
  ∃ start finish verb edge rest : String, verb ∈ ["CREATE ", "MERGE "] ∧
    q = "MATCH (" ++ a ++ ":" ++ start ++ "MATCH (" ++ b ++ ":" ++ finish ++ verb
      ++ "(" ++ a ++ ")" ++ direction.before ++ "[" ++ r ++ ":" ++ edge ++ "]" ++ direction.after
      ++ "(" ++ b ++ ")" ++ rest
      ++ if returned then " RETURN " ++ a ++ ", " ++ r ++ ", " ++ b else ""

/-! ## Where the variables stand -/

namespace Statement

/-- What stands after the variable of an end that is found. -/
def afterVar (n : NodeMatch) : String :=
  n.pattern.label ++ ")" ++ (Query.whereSection n.conditions).text ++ " "

variable (ends : Ends) (edge : Pattern) (direction : Direction) (cs : List Condition)
  (bs : List Binding) (returned : Bool)

theorem text_ends : ends.query.text =
    "MATCH (" ++ ends.startNode.pattern.var ++ ":" ++ afterVar ends.startNode ++ "MATCH ("
      ++ ends.endNode.pattern.var ++ ":" ++ afterVar ends.endNode := by
  simp [-String.reduceAppend, Ends.query, NodeMatch.query, afterVar, Pattern.text,
    String.append_assoc]

theorem text_returned :
    (Query.returnSection (ends.vars edge) returned).text =
      if returned then " RETURN " ++ ends.startNode.pattern.var ++ ", " ++ edge.var ++ ", "
        ++ ends.endNode.pattern.var else "" := by
  cases returned
  · rfl
  · simp [Query.returnSection, Ends.vars, String.append_assoc]

theorem namesAliases_createEdge :
    NamesAliases (createEdge ends edge direction bs returned).query.text
      ends.startNode.pattern.var edge.var ends.endNode.pattern.var direction returned := by
  refine ⟨afterVar ends.startNode, afterVar ends.endNode, "CREATE ",
    edge.label ++ " " ++ (Query.properties bs).text, "", by simp, ?_⟩
  simp [-String.reduceAppend, query, Ends.join, Pattern.withProperties, Pattern.text, text_ends,
    text_returned, String.append_assoc]

theorem namesAliases_updateEdge :
    NamesAliases (updateEdge ends edge direction cs bs returned).query.text
      ends.startNode.pattern.var edge.var ends.endNode.pattern.var direction returned := by
  refine ⟨afterVar ends.startNode, afterVar ends.endNode, "MERGE ", edge.label,
    (Query.whereSection cs).text ++ (Query.setSection edge.var bs).text, by simp, ?_⟩
  simp [-String.reduceAppend, query, Ends.join, Pattern.text, text_ends, text_returned,
    String.append_assoc]

end Statement

theorem EdgeComposer.namesAliases_perform (c : EdgeComposer) {spec : EdgeSpec} {op : EdgeOperation}
    {f : Fragment} (hf : c.perform spec op = .ok f) :
    NamesAliases f.query.text c.startVar c.assembler.var c.endVar spec.direction spec.returned := by
  obtain ⟨es, et, er, -, -, -, rfl⟩ := (c.perform_ok spec op).1 hf
  cases op with
  | create => exact Statement.namesAliases_createEdge _ _ _ _ _
  | update clause => exact Statement.namesAliases_updateEdge _ _ _ _ _ _

/-! ## Under a valid configuration -/

namespace Compiler

/-- **The variables of a relationship statement** are the configured ones. Those of the ends differ;
all three differ iff the one of the relationship, which is compared with neither, is not one of
them. -/
theorem aliases_callEdge (c : Compiler) {m : EdgeMethod} {spec : EdgeSpec} {f : Fragment}
    (hf : c.callEdge spec m = .ok f) :
    NamesAliases f.query.text c.config.startVar c.config.var c.config.endVar spec.direction
        spec.returned ∧
      c.config.startVar ≠ c.config.endVar ∧
      ([c.config.startVar, c.config.var, c.config.endVar].Nodup ↔
        c.config.var ≠ c.config.startVar ∧ c.config.var ≠ c.config.endVar) := by
  have he : c.config.startVar ≠ c.config.endVar := (Config.rules_iff.2 c.valid).ends
  rw [callEdge_eq] at hf
  refine ⟨?_, he, ?_⟩
  · have h := c.edges.namesAliases_perform hf
    cases m <;> exact h
  · simp only [List.nodup_cons, List.mem_cons, List.not_mem_nil, or_false, he,
      not_false_eq_true, and_true, List.nodup_nil, ne_eq]
    exact and_congr_left fun _ => ⟨Ne.symm, Ne.symm⟩

/-- A statement that returns its three variables. -/
theorem aliases_callEdge_returned :
    ∃ f, (⟨.default, by decide⟩ : Compiler).callEdge
        { EdgeSpec.friends "since" [] with direction := .outgoing, returned := true } .create =
          .ok f ∧
      NamesAliases f.query.text "start" "flava" "end" .outgoing true := by
  obtain ⟨f, hf⟩ : ∃ f, (⟨.default, by decide⟩ : Compiler).callEdge
      { EdgeSpec.friends "since" [] with direction := .outgoing, returned := true } .create =
        .ok f := ⟨_, rfl⟩
  exact ⟨f, hf, (aliases_callEdge _ hf).1⟩

/-- The variable of the relationship is set to that of its start, and validation has nothing against
it. -/
theorem aliases_callEdge_clash :
    ∃ c : Compiler, Config.default.build [.set .var "start"] = .ok c.config ∧
      Compiler.ofConfig c.config = .ok c ∧
      ∃ f, c.callEdge { EdgeSpec.friends "since" [] with returned := true } .create = .ok f ∧
        f.query.text = "MATCH (start:User) WHERE id(start) = $start_id "
          ++ "MATCH (end:User) WHERE id(end) = $end_id "
          ++ "CREATE (start)-[start:Knows \x7bsince: $since\x7d]-(end) RETURN start, start, end" ∧
        ¬ [c.config.startVar, c.config.var, c.config.endVar].Nodup := by
  refine ⟨⟨{ Config.default with var := "start" }, by decide⟩, ?_, ?_, _, rfl, ?_, by decide⟩
  · decide +kernel
  · rfl
  · decide +kernel

end Compiler

end CypherFragments
