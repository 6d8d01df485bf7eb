import CypherFragments.Statement
import CypherFragments.Table

/-!
# Match clauses

A match clause says by which comparisons a node or relationship is found. Each entry holds a
template for the left-hand side, in which `+v+` stands for the variable, and the tag whose value is
compared:

| template    | variable | prefix   | comparison               |
|-------------|----------|----------|--------------------------|
| `id(+v+)`   | `u`      |          | `id(u) = $id`            |
| `+v+.email` | `u`      | `start_` | `u.email = $start_email` |
| `name`      | `u`      |          | `name = $name`           |
-/

set_option autoImplicit false

namespace CypherFragments

structure MatchEntry where
  template : String
  param : String
  deriving DecidableEq, Repr

namespace MatchEntry

/-- The template of the graph's own identifiers. -/
def nativeTemplate : String := "id(+v+)"

/-- `v` in the place of each `+v+`, from left to right. -/
def expand (v : List Char) : List Char → List Char
  | '+' :: 'v' :: '+' :: r => v ++ expand v r
  | c :: r => c :: expand v r
  | [] => []

/-- `w` stands somewhere in the text. -/
def occurs (w : List Char) : List Char → Bool
  | [] => w.isEmpty
  | c :: r => w.isPrefixOf (c :: r) || occurs w r

/-- Some part of the template compares the graph's own identifier. -/
def isNative (e : MatchEntry) : Bool := occurs nativeTemplate.toList e.template.toList

def operand (e : MatchEntry) (var : String) : String :=
  String.ofList (expand var.toList e.template.toList)

def prefixedParam (e : MatchEntry) (paramPrefix : String) : String := paramPrefix ++ e.param

def condition (e : MatchEntry) (var paramPrefix : String) : Condition :=
  ⟨e.operand var, e.prefixedParam paramPrefix⟩

end MatchEntry

/-- Comparisons that all hold. Clauses built entry by entry have distinct templates; a clause that
was read keeps its entries as they are. -/
structure MatchClause where
  entries : List MatchEntry
  deriving DecidableEq, Repr, Inhabited

namespace MatchClause

def empty : MatchClause := ⟨[]⟩

/-- A template that is already present keeps its place and takes the new parameter. -/
def insert (c : MatchClause) (template param : String) : MatchClause :=
  ⟨upsert (·.template) ⟨template, param⟩ c.entries⟩

def ofList (l : List (String × String)) : MatchClause :=
  l.foldl (fun c p => c.insert p.1 p.2) empty

/-- The clause `id(+v+) = $param`. -/
def native (param : String) : MatchClause := empty.insert MatchEntry.nativeTemplate param

def isEmpty (c : MatchClause) : Bool := c.entries.isEmpty

def conditions (c : MatchClause) (var paramPrefix : String) : List Condition :=
  c.entries.map (·.condition var paramPrefix)

end MatchClause

end CypherFragments
