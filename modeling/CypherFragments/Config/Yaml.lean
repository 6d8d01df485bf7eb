import CypherFragments.Clause.Yaml
import CypherFragments.Config.Json
import CypherFragments.Config.Layers

/-!
# Configuration files

A configuration file is a YAML mapping of settings. Settings that are not given have their defaults,
and an empty file is the default configuration.
-/

set_option autoImplicit false

namespace CypherFragments.Config

open Yaml (Node Document Reading)

/-- Takes over an entry of a mapping. A field is written once, other keys are passed over. -/
def Draft.addNode (d : Draft) (e : Node × Node) : Reading Draft := do
  let key ← Reading.text e.1
  match Setting.ofKey? key with
  | some s =>
    if d.has s then failure
    return d.add s (← Reading.text e.2)
  | none =>
    if key = clauseKey then
      if d.clause.isSome then failure
      return d.addClause (← MatchClause.ofNode e.2)
    else return d

def ofNode (v : Node) : Reading Config := do
  return (← (← Reading.entries v).foldlM Draft.addNode {}).config

/-- The configuration that a text holds, valid or not. -/
def ofYaml? (s : String) : Option Config := do
  (← Document.read? s).decode? ofNode default

def ofYaml (s : String) : Except ConfigError Config :=
  match ofYaml? s with
  | none => .error (.unparsable s)
  | some c => c.validate

/-- The bytes of a file as text. -/
def fileText (content : Option ByteArray) : Except ReadFailure String :=
  match content with
  | none => .error .notFound
  | some bytes =>
    match String.fromUTF8? bytes with
    | none => .error .notUtf8
    | some s => .ok s

/-- The configuration of a file, given its content. -/
def ofFile (content : Option ByteArray) : Except ConfigError Config :=
  match fileText content with
  | .error e => .error (.unreadable e)
  | .ok s => ofYaml s

end CypherFragments.Config
