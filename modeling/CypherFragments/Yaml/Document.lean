import CypherFragments.Yaml.Node

/-!
# Documents

A text holds one document, or none. A `Reading` takes its nodes as what the reader wants them to be,
with `text`, `items` and `entries`; aliases are followed, but not without end, and an empty plain
scalar is also the empty sequence and the empty mapping.
-/

set_option autoImplicit false

namespace CypherFragments.Yaml

/-- The directives in front of a document. -/
structure Prologue where
  version : Option (Nat × Nat) := none
  handles : List String := []

namespace Prologue

/-- Version 1.1 or 1.2, given once, and each handle once. -/
def add? (p : Prologue) : Token → Option Prologue
  | .version major minor =>
    if p.version.isNone ∧ major = 1 ∧ (minor = 1 ∨ minor = 2) then
      some { p with version := some (major, minor) }
    else none
  | .tagHandle h => if p.handles.contains h then none else some { p with handles := h :: p.handles }
  | _ => none

def isDirective : Token → Bool
  | .version _ _ => true
  | .tagHandle _ => true
  | _ => false

end Prologue

/-- The root, if there is a document, and the nodes that aliases refer to. -/
structure Document where
  root : Option Node
  anchored : List (Nat × Node)

namespace Document

/-- The handles that need no declaration. -/
def standardHandles : List String := ["!", "!!"]

/-- The root node and the tokens after it. -/
def rootOf (p : Prologue) (explicit : Bool) (ts : List Token) : Option (Node × List Token) :=
  let ended :=
    match ts with
    | [] => true
    | t :: _ => t = .documentStart || t = .documentEnd || Prologue.isDirective t
  if explicit && ended then some (.empty, ts)
  else do
    let (root, s) ← Node.read? (4 * ts.length + 4) { block := true }
      ⟨ts, p.handles ++ standardHandles, .empty⟩
    return (root, s.tokens)

def ofTokens? (ts : List Token) : Option Document :=
  if ts.isEmpty then some ⟨none, []⟩
  else do
    let directives := ts.takeWhile Prologue.isDirective
    let p ← directives.foldlM Prologue.add? {}
    let (explicit, body) :=
      match ts.drop directives.length with
      | .documentStart :: r => (true, r)
      | r => (false, r)
    if !explicit ∧ !directives.isEmpty then failure
    let (root, rest) ← rootOf p explicit body
    if !(rest.all (· = .documentEnd)) then failure
    return ⟨some root, root.anchored⟩

def read? (s : String) : Option Document := (Token.scan? s).bind ofTokens?

end Document

/-! ## Readings -/

/-- A value read off the nodes of a document, given how many more aliases may be followed. -/
abbrev Reading := ReaderT Document (StateT Nat Option)

namespace Document

/-- A small text can stand for a huge value, so no more aliases are followed than this. -/
def allowance (d : Document) : Nat := 100 * (d.root.map Node.size).getD 0

/-- The node with a number: the last one that has it. -/
def target (d : Document) (n : Nat) : Node :=
  ((d.anchored.filter (·.1 == n)).getLast?.map (·.2)).getD .empty

/-- Reads the root. A text without a document reads as `missing`. -/
def decode? {α : Type} (d : Document) (f : Node → Reading α) (missing : α) : Option α :=
  match d.root with
  | none => some missing
  | some v => ((f v).run d).run' d.allowance

end Document

namespace Reading

/-- The node itself, or the one that an alias stands for. -/
def resolve (v : Node) : Reading Node := do
  match v with
  | .reference n =>
    match ← get with
    | 0 => failure
    | left + 1 =>
      set left
      return (← read).target n
  | v => return v

def text (v : Node) : Reading String := do
  match ← resolve v with
  | .scalar _ s _ => return s
  | _ => failure

def items (v : Node) : Reading (List Node) := do
  match ← resolve v with
  | .sequence _ vs => return vs
  | .scalar _ s plain => if plain && s.isEmpty then return [] else failure
  | _ => failure

def entries (v : Node) : Reading (List (Node × Node)) := do
  match ← resolve v with
  | .mapping _ es => return es
  | .scalar _ s plain => if plain && s.isEmpty then return [] else failure
  | _ => failure

end Reading

end CypherFragments.Yaml
