import CypherFragments.Fragment
import CypherFragments.Literal

/-!
# Inlined parameters

A written statement is read back as a `Query`: `$` and the longest run of name characters after it
is the place of a parameter, and a `$` without such a run stands for itself. Filling the places with
literals gives a text for people to look at.
-/

set_option autoImplicit false

namespace CypherFragments

/-- A parameter without a value. -/
structure MissingParameter where
  name : String
  deriving DecidableEq, Repr

def MissingParameter.message (e : MissingParameter) : String :=
  "Missing required parameter: " ++ e.name

namespace Query

/-- The query that is written as `s`. -/
def scan : List Char → Query
  | [] => []
  | c :: r =>
    if c = '$' then
      let name := r.takeWhile Text.isNameChar
      if name.isEmpty then .text "$" :: scan r
      else .slot (String.ofList name) :: scan (r.dropWhile Text.isNameChar)
    else .text (String.singleton c) :: scan r
termination_by s => s.length
decreasing_by
  · simp
  · exact Nat.lt_succ_of_le (List.dropWhile_suffix _).length_le
  · simp

def ofString (s : String) : Query := scan s.toList

/-- The texts in order, with the literal of its value in the place of each parameter. The first
parameter without a value is the one reported. -/
def fill (params : Params) : Query → Except MissingParameter String
  | [] => .ok ""
  | .text s :: q => (fill params q).map (s ++ ·)
  | .slot p :: q =>
    match params.get? p with
    | none => .error ⟨p⟩
    | some v => (fill params q).map (Literal.text v ++ ·)

end Query

/-- The statement `query` with literals in the place of its parameters. -/
def inline (query : String) (params : Params) : Except MissingParameter String :=
  (Query.ofString query).fill params

def Fragment.inlined (f : Fragment) : Except MissingParameter String :=
  inline f.query.text f.params

end CypherFragments
