import CypherFragments.Config.Basic
import CypherFragments.Text.Name

/-!
# Valid configurations

All names but the prefix are identifiers, the prefix may go in front of one, and the two ends of a
relationship have different variables. That last rule is looked at only when the names themselves
are in order.
-/

set_option autoImplicit false

namespace CypherFragments

/-- A rule that a configuration breaks. -/
inductive Violation
  | notIdentifier (s : Setting) (value : String)
  | badPrefix (value : String)
  | sameEndpoints
  deriving DecidableEq, Repr

namespace Violation

/-- The field that the rule is about. -/
def field : Violation → String
  | notIdentifier s _ => s.key
  | badPrefix _ => Setting.paramPrefix.key
  | sameEndpoints => "__all__"

def code : Violation → String
  | notIdentifier _ _ => "identifier"
  | badPrefix _ => "param_prefix"
  | sameEndpoints => "distinct_endpoints"

def message : Violation → String
  | notIdentifier _ _ =>
    "must start with a letter or underscore and contain only letters, digits or underscores"
  | badPrefix _ => "may only contain letters, digits or underscores"
  | sameEndpoints => "start and end variables must differ"

/-- The refused text. -/
def value? : Violation → Option String
  | notIdentifier _ value => some value
  | badPrefix value => some value
  | sameEndpoints => none

end Violation

namespace Config

def checkIdentifier (c : Config) (s : Setting) : List Violation :=
  if Text.isIdentifier (c.get s).toList then [] else [.notIdentifier s (c.get s)]

def checkPrefix (c : Config) : List Violation :=
  if c.paramPrefix.toList.all Text.isAsciiNameChar then [] else [.badPrefix c.paramPrefix]

/-- The names that break a rule, in the order of their keys. -/
def fieldViolations (c : Config) : List Violation :=
  c.checkIdentifier .endVar ++ c.checkPrefix ++ c.checkIdentifier .startVar
    ++ c.checkIdentifier .tagName ++ c.checkIdentifier .var

def violations (c : Config) : List Violation :=
  if c.fieldViolations.isEmpty then
    if c.startVar = c.endVar then [.sameEndpoints] else []
  else c.fieldViolations

end Config

/-- Why a file cannot be read as text. -/
inductive ReadFailure
  | notFound
  | notUtf8
  deriving DecidableEq, Repr

def ReadFailure.message : ReadFailure → String
  | notFound => "No such file or directory (os error 2)"
  | notUtf8 => "stream did not contain valid UTF-8"

/-- Why there is no configuration. -/
inductive ConfigError
  | unreadable (cause : ReadFailure)
  /-- The text is no YAML of the right shape. -/
  | unparsable (text : String)
  | invalid (violations : List Violation)
  deriving DecidableEq, Repr

def ConfigError.message : ConfigError → String
  | unreadable cause => "Failed to read configuration file: " ++ cause.message
  | unparsable text => "Parse error for yaml_content: " ++ text
  | invalid violations =>
    "Validation error: "
      ++ "\n".intercalate (violations.map fun v => v.field ++ ": " ++ v.message)

/-- The configuration itself, if it breaks no rule. -/
def Config.validate (c : Config) : Except ConfigError Config :=
  if c.violations.isEmpty then .ok c else .error (.invalid c.violations)

end CypherFragments
