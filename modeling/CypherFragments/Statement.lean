/-!
# Statements

A `Statement` is what a Cypher statement says: patterns, comparisons, properties.
`Statement.query` writes it as a `Query`, a text in which the places of parameters are still marked;
`Query.text` writes each of them as `$name`.
-/

set_option autoImplicit false

namespace CypherFragments

/-! ## Texts with places for parameters -/

inductive Piece
  | text (s : String)
  /-- The place of a parameter's value. -/
  | slot (param : String)
  deriving DecidableEq, Repr

abbrev Query := List Piece

namespace Query

def ofText (s : String) : Query := [.text s]

/-- `write` puts a text into the place of a parameter. -/
def render (write : String → String) (q : Query) : String :=
  String.join (q.map fun
    | .text s => s
    | .slot p => write p)

/-- A parameter as it is named in a statement. -/
def placeholder (param : String) : String := "$" ++ param

def text (q : Query) : String := q.render placeholder

/-- `sep` between each two of the queries. -/
def separated (sep : String) (qs : List Query) : Query := List.intercalate (ofText sep) qs

theorem render_append (write : String → String) (p q : Query) :
    render write (p ++ q) = render write p ++ render write q := by
  simp [render, String.join_append]

@[simp] theorem text_append (p q : Query) : text (p ++ q) = p.text ++ q.text :=
  render_append placeholder p q

@[simp] theorem text_ofText (s : String) : (ofText s).text = s := by
  simp [text, ofText, render]

end Query

/-! ## Parts of statements -/

/-- `operand = $param` -/
structure Condition where
  operand : String
  param : String
  deriving DecidableEq, Repr

/-- A property and the parameter that holds its value. -/
structure Binding where
  property : String
  param : String
  deriving DecidableEq, Repr

/-- A variable with the label of what it stands for, `variable:label`. -/
structure Pattern where
  var : String
  label : String
  deriving DecidableEq, Repr

namespace Query

/-- `a = $p AND b = $q` -/
def conjunction (cs : List Condition) : Query :=
  separated " AND " (cs.map fun c => [.text (c.operand ++ " = "), .slot c.param])

/-- `v.a = $p, v.b = $q` -/
def assignments (var : String) (bs : List Binding) : Query :=
  separated ", " (bs.map fun b => [.text (var ++ "." ++ b.property ++ " = "), .slot b.param])

/-- The properties in braces, `a: $p, b: $q`; nothing if there are none. -/
def properties (bs : List Binding) : Query :=
  if bs.isEmpty then []
  else
    ofText "\x7b"
      ++ separated ", " (bs.map fun b => [.text (b.property ++ ": "), .slot b.param])
      ++ ofText "\x7d"

/-- Nothing if there are no conditions. The list is tested and not the text of the conjunction, which
comes to the same: every condition has an equals sign. -/
def whereSection (cs : List Condition) : Query :=
  if cs.isEmpty then [] else ofText " WHERE " ++ conjunction cs

/-- Nothing if there are no assignments, where again the list is tested and not the text. -/
def setSection (var : String) (bs : List Binding) : Query :=
  if bs.isEmpty then [] else ofText " SET " ++ assignments var bs

def returnSection (vars : List String) (returned : Bool) : Query :=
  if returned then ofText (" RETURN " ++ ", ".intercalate vars) else []

end Query

namespace Pattern

def text (p : Pattern) : String := p.var ++ ":" ++ p.label

end Pattern

/-- Which way a relationship is read. -/
inductive Direction
  | incoming
  | outgoing
  | undirected
  deriving DecidableEq, Repr, Inhabited

namespace Direction

/-- All words but `in` and `out` leave the direction open. -/
def ofWord (s : String) : Direction :=
  if s = "in" then incoming else if s = "out" then outgoing else undirected

def name : Direction → String
  | incoming => "in"
  | outgoing => "out"
  | undirected => "undirected"

/-- What stands before the brackets of a relationship. -/
def before : Direction → String
  | incoming => "<-"
  | _ => "-"

/-- What stands after the brackets of a relationship. -/
def after : Direction → String
  | outgoing => "->"
  | _ => "-"

@[simp] theorem ofWord_name (d : Direction) : ofWord d.name = d := by
  cases d <;> decide

end Direction

/-- A node that is looked up. -/
structure NodeMatch where
  pattern : Pattern
  conditions : List Condition
  deriving DecidableEq, Repr

/-- The nodes that a relationship joins. -/
structure Ends where
  startNode : NodeMatch
  endNode : NodeMatch
  deriving DecidableEq, Repr

/-! ## Statements -/

inductive Statement
  /-- A node pattern with properties, not a statement by itself. -/
  | nodePattern (node : Pattern) (properties : List Binding)
  | matchNode (node : NodeMatch) (returned : Bool)
  | createNode (node : Pattern) (properties : List Binding) (returned : Bool)
  | updateNode (node : NodeMatch) (changes : List Binding) (returned : Bool)
  | deleteNode (var : String) (conditions : List Condition) (detach : Bool)
  | createEdge (ends : Ends) (edge : Pattern) (direction : Direction) (properties : List Binding)
      (returned : Bool)
  | updateEdge (ends : Ends) (edge : Pattern) (direction : Direction)
      (conditions : List Condition) (changes : List Binding) (returned : Bool)
  deriving DecidableEq, Repr

open Query

/-- `MATCH (v:Label) WHERE …` -/
def NodeMatch.query (n : NodeMatch) : Query :=
  ofText ("MATCH (" ++ n.pattern.text ++ ")") ++ whereSection n.conditions

namespace Ends

def query (e : Ends) : Query := e.startNode.query ++ ofText " " ++ e.endNode.query ++ ofText " "

/-- The variables of a relationship statement. -/
def vars (e : Ends) (edge : Pattern) : List String :=
  [e.startNode.pattern.var, edge.var, e.endNode.pattern.var]

/-- `(s)-[inner]->(t)` -/
def join (e : Ends) (direction : Direction) (inner : Query) : Query :=
  ofText ("(" ++ e.startNode.pattern.var ++ ")" ++ direction.before ++ "[") ++ inner
    ++ ofText ("]" ++ direction.after ++ "(" ++ e.endNode.pattern.var ++ ")")

end Ends

/-- `v:Label {…}` -/
def Pattern.withProperties (p : Pattern) (bs : List Binding) : Query :=
  ofText (p.text ++ " ") ++ properties bs

def Statement.query : Statement → Query
  | nodePattern node bs => ofText "(" ++ node.withProperties bs ++ ofText ")"
  | matchNode node returned => node.query ++ returnSection [node.pattern.var] returned
  | createNode node bs returned =>
    ofText "CREATE (" ++ node.withProperties bs ++ ofText ")"
      ++ returnSection [node.var] returned
  | updateNode node bs returned =>
    ofText ("MERGE (" ++ node.pattern.text ++ ")") ++ whereSection node.conditions
      ++ setSection node.pattern.var bs ++ returnSection [node.pattern.var] returned
  | deleteNode v cs detach =>
    ofText ("MATCH (" ++ v ++ ")") ++ whereSection cs
      ++ ofText ((if detach then " DETACH DELETE " else " DELETE ") ++ v)
  | createEdge ends edge direction bs returned =>
    ends.query ++ ofText "CREATE " ++ ends.join direction (edge.withProperties bs)
      ++ returnSection (ends.vars edge) returned
  | updateEdge ends edge direction cs bs returned =>
    ends.query ++ ofText "MERGE " ++ ends.join direction (ofText edge.text) ++ whereSection cs
      ++ setSection edge.var bs ++ returnSection (ends.vars edge) returned

end CypherFragments
