import CypherFragments.Clause.Basic

/-!
# Configuration

The names that statements are composed with and the clause that nodes and relationships are matched
by. The five names are addressed by a `Setting`, wherever they come from.
-/

set_option autoImplicit false

namespace CypherFragments

/-- A configured name. -/
inductive Setting
  /-- The tag family whose fields are bound. -/
  | tagName
  /-- The variable of single nodes, and of the relationship of a relationship statement. -/
  | var
  | startVar
  | endVar
  /-- What all parameter names start with. -/
  | paramPrefix
  deriving DecidableEq, Repr

namespace Setting

def all : List Setting := [tagName, var, startVar, endVar, paramPrefix]

/-- The name of the setting in files. -/
def key : Setting → String
  | tagName => "tag_name"
  | var => "variable"
  | startVar => "start_variable"
  | endVar => "end_variable"
  | paramPrefix => "param_prefix"

def ofKey? (s : String) : Option Setting := all.find? (·.key == s)

@[simp] theorem ofKey?_key (s : Setting) : ofKey? s.key = some s := by
  cases s <;> decide

/-- The environment variable that overrides the setting. -/
def environmentName : Setting → String
  | tagName => "GRAPHFRAG_TAG_NAME"
  | var => "GRAPHFRAG_VARIABLE"
  | startVar => "GRAPHFRAG_START_VARIABLE"
  | endVar => "GRAPHFRAG_END_VARIABLE"
  | paramPrefix => "GRAPHFRAG_PARAM_PREFIX"

end Setting

structure Config where
  tagName : String
  var : String
  startVar : String
  endVar : String
  paramPrefix : String
  clause : MatchClause
  deriving DecidableEq, Repr

namespace Config

def default : Config := ⟨"json", "flava", "start", "end", "", .native "id"⟩

instance : Inhabited Config := ⟨default⟩

def get (c : Config) : Setting → String
  | .tagName => c.tagName
  | .var => c.var
  | .startVar => c.startVar
  | .endVar => c.endVar
  | .paramPrefix => c.paramPrefix

def set (c : Config) (s : Setting) (value : String) : Config :=
  match s with
  | .tagName => { c with tagName := value }
  | .var => { c with var := value }
  | .startVar => { c with startVar := value }
  | .endVar => { c with endVar := value }
  | .paramPrefix => { c with paramPrefix := value }

def setAll (c : Config) (l : List (Setting × String)) : Config :=
  l.foldl (fun c p => c.set p.1 p.2) c

theorem get_set (c : Config) (s t : Setting) (value : String) :
    (c.set s value).get t = if t = s then value else c.get t := by
  cases s <;> cases t <;> rfl

@[simp] theorem clause_set (c : Config) (s : Setting) (value : String) :
    (c.set s value).clause = c.clause := by
  cases s <;> rfl

end Config

end CypherFragments
