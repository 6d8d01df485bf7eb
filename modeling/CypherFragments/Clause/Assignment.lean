import CypherFragments.Clause.Basic

/-!
# Entries as TEMPLATE=PARAM

An entry written as one text. The last equals sign divides it, so a template may hold others.
-/

set_option autoImplicit false

namespace CypherFragments.MatchEntry

/-- What stands before and after the last `sep`. -/
def splitLast (sep : Char) : List Char → Option (List Char × List Char)
  | [] => none
  | c :: r =>
    match splitLast sep r with
    | some (a, b) => some (c :: a, b)
    | none => if c = sep then some ([], r) else none

/-- The template and the parameter, both not empty. -/
def ofAssignment? (s : String) : Option (String × String) :=
  match splitLast '=' s.toList with
  | some (t, p) =>
    if t.isEmpty || p.isEmpty then none else some (String.ofList t, String.ofList p)
  | none => none

end CypherFragments.MatchEntry
