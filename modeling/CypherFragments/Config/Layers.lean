import CypherFragments.Config.Validation

/-!
# Layered configurations

A configuration is built in steps, each of which writes some of its fields. What a later step writes
wins, and only the result has to be valid.
-/

set_option autoImplicit false

namespace CypherFragments

/-- The bytes of each environment variable that is set. -/
abbrev Environment := String → Option ByteArray

/-- A variable that is no UTF-8 text counts as not set. -/
def Environment.text? (env : Environment) (name : String) : Option String :=
  (env name).bind String.fromUTF8?

namespace Config

inductive Step
  | set (s : Setting) (value : String)
  | clause (c : MatchClause)
  /-- Writes the settings whose variables are set. -/
  | environment (env : Environment)

/-- What the environment writes. -/
def overrides (env : Environment) : List (Setting × String) :=
  Setting.all.filterMap fun s => (env.text? s.environmentName).map (s, ·)

def apply (c : Config) : Step → Config
  | .set s value => c.set s value
  | .clause clause => { c with clause := clause }
  | .environment env => c.setAll (overrides env)

def applyAll (c : Config) (steps : List Step) : Config := steps.foldl apply c

def build (c : Config) (steps : List Step) : Except ConfigError Config :=
  (c.applyAll steps).validate

/-- The defaults under the environment. -/
def ofEnvironment (env : Environment) : Except ConfigError Config :=
  default.build [.environment env]

end Config

end CypherFragments
