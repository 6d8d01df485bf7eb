import CypherFragments.Clause.Assignment
import CypherFragments.CommandLine.Grammar
import CypherFragments.Config.Basic

/-!
# Invocations

What a command line asks for: a configuration and one statement to compose under it.
-/

set_option autoImplicit false

namespace CypherFragments

/-- Entries of a clause, as pairs of a template and a parameter. -/
abbrev Entries := List (String × String)

/-- A record given as JSON, or as `@` and the path of a file. -/
structure RecordSource where
  source : String
  name : String
  label : Option String
  deriving DecidableEq, Repr

structure EdgeRequest where
  startNode : RecordSource
  endNode : RecordSource
  edge : RecordSource
  startMatch : Entries
  endMatch : Entries
  edgeMatch : Entries
  direction : String
  returned : Bool
  excludes : List String
  update : Bool
  deriving DecidableEq, Repr

/-- The path of the file that holds the record, if it is not given itself. -/
def RecordSource.path? (r : RecordSource) : Option String :=
  match r.source.toList with
  | '@' :: path => some (String.ofList path)
  | _ => none

inductive Command
  | node (record : RecordSource)
  | find (record : RecordSource) (clause : Entries) (returned : Bool)
  | create (record : RecordSource) (returned : Bool) (excludes : List String)
  | update (record : RecordSource) (clause : Entries) (returned : Bool) (excludes : List String)
  | delete (record : RecordSource) (clause : Entries) (detach : Bool)
  | edge (request : EdgeRequest)
  deriving DecidableEq, Repr

/-- The records that a command is about. -/
def Command.records : Command → List RecordSource
  | node r => [r]
  | find r _ _ => [r]
  | create r _ _ => [r]
  | update r _ _ _ => [r]
  | delete r _ _ => [r]
  | edge r => [r.startNode, r.endNode, r.edge]

structure Invocation where
  /-- The path of a configuration file. -/
  configFile : Option String
  settings : List (Setting × String)
  defaultMatch : Entries
  /-- The statement is to be printed with its parameters inlined. -/
  inlined : Bool
  command : Command
  deriving DecidableEq, Repr

/-- The files that an invocation reads. -/
def Invocation.paths (i : Invocation) : List String :=
  i.configFile.toList ++ i.command.records.filterMap RecordSource.path?

namespace CommandLine

/-! ## Options -/

/-- The option that writes a setting. -/
def settingOption : Setting → String
  | .tagName => "tag-name"
  | .var => "variable"
  | .startVar => "start-variable"
  | .endVar => "end-variable"
  | .paramPrefix => "param-prefix"

def isAssignment (s : String) : Bool := (MatchEntry.ofAssignment? s).isSome

def once (name : String) : Opt := { name := name, arity := .once }
def flag (name : String) : Opt := { name := name, arity := .flag }
def repeated (name : String) : Opt := { name := name, arity := .repeated }
def matching (name : String) : Opt :=
  { name := name, arity := .repeated, accepts := isAssignment }

def programOptions : Options where
  list :=
    [ { name := "config", arity := .once, accepts := (!·.isEmpty) },
      matching "default-match", flag "inline" ]
    ++ Setting.all.map fun s => once (settingOption s)
  hasVersion := true

def recordOptions : List Opt := [once "record", once "name", once "label"]

def edgeOptions : List Opt :=
  [ once "start", once "start-name", once "start-label", matching "start-match",
    once "end", once "end-name", once "end-label", matching "end-match",
    once "edge", once "edge-name", once "edge-label", matching "edge-match",
    once "direction", flag "return", repeated "exclude", flag "update" ]

/-- The options of a subcommand. -/
def subcommandOptions : List (String × List Opt) :=
  [ ("node", recordOptions),
    ("match", recordOptions ++ [matching "match", flag "return"]),
    ("create", recordOptions ++ [flag "return", repeated "exclude"]),
    ("update", recordOptions ++ [matching "match", flag "return", repeated "exclude"]),
    ("delete", recordOptions ++ [matching "match", flag "detach"]),
    ("edge", edgeOptions) ]

def subcommands : List String := subcommandOptions.map (·.1) ++ ["help"]

/-! ## From options to commands -/

namespace Given

def entries (g : Given) (name : String) : Entries :=
  (g.all name).filterMap MatchEntry.ofAssignment?

/-- The record given by three options, of which the label may be missing. -/
def recordSource? (g : Given) (source name label : String) : Option RecordSource := do
  return ⟨← g.one? source, ← g.one? name, g.one? label⟩

def edgeRequest? (g : Given) : Option EdgeRequest := do
  return {
    startNode := ← g.recordSource? "start" "start-name" "start-label"
    endNode := ← g.recordSource? "end" "end-name" "end-label"
    edge := ← g.recordSource? "edge" "edge-name" "edge-label"
    startMatch := g.entries "start-match"
    endMatch := g.entries "end-match"
    edgeMatch := g.entries "edge-match"
    direction := (g.one? "direction").getD ""
    returned := g.has "return"
    excludes := g.all "exclude"
    update := g.has "update" }

/-- The command, unless an option is missing. -/
def command? (g : Given) (subcommand : String) : Option Command :=
  if subcommand = "edge" then g.edgeRequest?.map .edge
  else do
    let r ← g.recordSource? "record" "name" "label"
    let clause := g.entries "match"
    let returned := g.has "return"
    let excludes := g.all "exclude"
    match subcommand with
    | "node" => return .node r
    | "match" => return .find r clause returned
    | "create" => return .create r returned excludes
    | "update" => return .update r clause returned excludes
    | "delete" => return .delete r clause (g.has "detach")
    | _ => failure

end Given

/-- The subcommand `help` knows all subcommands, and nothing below them. -/
def helpStop : List String → Stop
  | [] => .help
  | [name] => if subcommands.contains name then .help else .usage
  | _ => .usage

/-- Reads a command line. Options of the program stand before the subcommand, and the last of them
is looked at after the subcommand has been read. -/
def read (args : List String) : Except Stop Invocation := do
  let (g, sub) ← Given.read programOptions subcommands {} args
  match sub with
  | none => .error .usage
  | some ("help", args) => .error (helpStop args)
  | some (name, args) =>
    let options := (subcommandOptions.lookup name).getD []
    let (s, _) ← Given.read { list := options } [] {} args
    let s ← s.resolve
    match s.command? name with
    | none => .error .usage
    | some command =>
      let g ← g.resolve
      return {
        configFile := g.one? "config"
        settings := Setting.all.filterMap fun s => (g.one? (settingOption s)).map (s, ·)
        defaultMatch := g.entries "default-match"
        inlined := g.has "inline"
        command := command }

end CommandLine

end CypherFragments
