import CypherFragments.Json.Writer
import CypherFragments.Statement
import CypherFragments.Table

/-!
# Fragments

A `Fragment` is a statement with the values of its parameters and the parts it was composed of.
-/

set_option autoImplicit false

namespace CypherFragments

/-- Values of parameters, in the order in which they were bound. -/
abbrev Params := Table Json

structure Fragment where
  /-- Not there until a statement has been composed. -/
  statement : Option Statement
  /-- The properties that are written. -/
  bindings : List Binding
  /-- The comparisons of the match clause. -/
  conditions : List Condition
  params : Params
  var : String
  paramPrefix : String
  entityName : String
  deriving Inhabited

namespace Fragment

def query (f : Fragment) : Query := f.statement.elim [] Statement.query

/-- The properties in braces, or nothing. -/
def createLiteral (f : Fragment) : Query := .properties f.bindings

def setList (f : Fragment) : Query := .assignments f.var f.bindings

def matchPredicate (f : Fragment) : Query := .conjunction f.conditions

/-- The parameter of a tag. -/
def paramName (f : Fragment) (tag : String) : String := f.paramPrefix ++ tag

/-- Takes over the parameters of another fragment; they overwrite those of the same name. -/
def mergeParams (f : Fragment) (params : Params) : Fragment :=
  { f with params := f.params.merge params }

/-- Nothing but parameters. -/
def ofParams (params : Params) (paramPrefix : String) : Fragment where
  statement := none
  bindings := []
  conditions := []
  params := params
  var := ""
  paramPrefix := paramPrefix
  entityName := ""

def toJson (f : Fragment) : Json := .object
  [ ("query", .string f.query.text),
    ("createLiteral", .string f.createLiteral.text),
    ("setList", .string f.setList.text),
    ("matchPredicate", .string f.matchPredicate.text),
    ("params", .object f.params.entries),
    ("variable", .string f.var),
    ("paramPrefix", .string f.paramPrefix),
    ("entityName", .string f.entityName) ]

end Fragment

end CypherFragments
