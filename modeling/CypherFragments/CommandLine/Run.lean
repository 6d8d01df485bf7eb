import CypherFragments.CommandLine.Invocation
import CypherFragments.Compiler
import CypherFragments.Config.Yaml
import CypherFragments.Inline
import CypherFragments.Record.JsonRecord

/-!
# Running a command line

The whole program as a function of its arguments, its environment and the files it can read.
-/

set_option autoImplicit false

namespace CypherFragments

/-- What the program can see: environment variables, and the contents of files by their paths. -/
structure World where
  environment : Environment
  files : String → Option ByteArray

/-- Why a command fails. -/
inductive RunError
  | config (path : String) (cause : ConfigError)
  | invalid (cause : ConfigError)
  | recordFile (path : String) (cause : ReadFailure)
  | recordText (name : String) (cause : Json.Fault)
  | extract (cause : ExtractError)
  | inlined (cause : MissingParameter)

/-- The failure itself, without its cause where that is a failure of its own. -/
def RunError.message : RunError → String
  | config path _ => "loading config " ++ path
  | invalid cause => cause.message
  | recordFile path _ => "reading record file " ++ path
  | recordText name _ => "parsing record `" ++ name ++ "`"
  | extract cause => cause.message
  | inlined cause => cause.message

namespace Invocation

/-- The configuration file, or the defaults. -/
def baseConfig (i : Invocation) (w : World) : Except RunError Config :=
  match i.configFile with
  | none => .ok .default
  | some path => (Config.ofFile (w.files path)).mapError (.config path)

/-- What the command line writes into the configuration, after the environment. -/
def configSteps (i : Invocation) (w : World) : List Config.Step :=
  .environment w.environment :: i.settings.map (fun p => .set p.1 p.2)
    ++ if i.defaultMatch.isEmpty then [] else [.clause (.ofList i.defaultMatch)]

def config (i : Invocation) (w : World) : Except RunError Config := do
  let base ← i.baseConfig w
  (base.build (i.configSteps w)).mapError .invalid

end Invocation

/-- The text of a record: what is given itself, or the content of the file it names. -/
def RecordSource.text (r : RecordSource) (w : World) : Except RunError String :=
  match r.path? with
  | some path => (Config.fileText (w.files path)).mapError (.recordFile path)
  | none => .ok r.source

def RecordSource.load (r : RecordSource) (w : World) : Except RunError Record := do
  let value ← (Json.read (← r.text w)).mapError (.recordText r.name)
  return JsonRecord.record ⟨r.name, value⟩

/-- No entries are the configured clause. -/
def Entries.choice (l : Entries) : ClauseChoice :=
  if l.isEmpty then .default else .custom (.ofList l)

def EdgeRequest.spec (r : EdgeRequest) (w : World) : Except RunError EdgeSpec := do
  let s ← r.startNode.load w
  let t ← r.endNode.load w
  let e ← r.edge.load w
  return {
    startNode := ⟨s, .ofOption r.startNode.label, Entries.choice r.startMatch⟩
    endNode := ⟨t, .ofOption r.endNode.label, Entries.choice r.endMatch⟩
    edge := e
    label := .ofOption r.edge.label
    direction := .ofWord r.direction
    returned := r.returned
    excludes := r.excludes }

/-- The fragment that a command asks for. -/
def Command.fragment (c : Compiler) (w : World) : Command → Except RunError Fragment
  | node r => do
    (c.nodeWithProperties (← r.load w) (.ofOption r.label)).mapError .extract
  | find r clause returned => do
    let x ← r.load w
    (match Entries.choice clause with
      | .default => c.matchNode x (.ofOption r.label) returned
      | .custom m => c.matchNodeBy x (.ofOption r.label) m returned).mapError .extract
  | create r returned excludes => do
    (c.createNode (← r.load w) (.ofOption r.label) returned excludes).mapError .extract
  | update r clause returned excludes => do
    let x ← r.load w
    (match Entries.choice clause with
      | .default => c.updateNode x (.ofOption r.label) returned excludes
      | .custom m => c.updateNodeBy x (.ofOption r.label) m returned excludes).mapError .extract
  | delete r clause detach => do
    let x ← r.load w
    (match Entries.choice clause with
      | .default => c.deleteNode x detach
      | .custom m => c.deleteNodeBy x detach m).mapError .extract
  | edge r => do
    let spec ← r.spec w
    let clause := (Entries.choice r.edgeMatch).resolve c.config.clause
    (if r.update then c.updateEdgeBy spec clause else c.createEdgeBy spec).mapError .extract

namespace Invocation

/-- The line that is printed: the fragment, or its statement with parameters inlined. -/
def output (i : Invocation) (w : World) : Except RunError String := do
  let compiler ← (Compiler.ofConfig (← i.config w)).mapError .invalid
  let f ← i.command.fragment compiler w
  if i.inlined then f.inlined.mapError .inlined else return f.toJson.pretty

end Invocation

/-! ## The program -/

/-- The exit code and the texts that a program leaves. -/
structure Outcome where
  exitCode : UInt32
  stdout : String
  stderr : String
  deriving DecidableEq, Repr

namespace CommandLine

def programName : String := "graphfrag"

def version : String := programName ++ " 0.1.0\n"

def usage : String :=
  "Usage: " ++ programName ++ " [OPTIONS] <node|match|create|update|delete|edge> [OPTIONS]\n"

def run (w : World) (args : List String) : Outcome :=
  match read args with
  | .error .usage => ⟨2, "", usage⟩
  | .error .help => ⟨0, usage, ""⟩
  | .error .version => ⟨0, version, ""⟩
  | .ok i =>
    match i.output w with
    | .ok s => ⟨0, s ++ "\n", ""⟩
    | .error e => ⟨1, "", "Error: " ++ e.message ++ "\n"⟩

end CommandLine

end CypherFragments
