import CypherFragments.Table
import CypherFragments.Yaml.Token

/-!
# Nodes

The tree of a YAML document. `Node.read?` takes a node off the start of a list of tokens; aliases
stay in the tree as references to anchored nodes.
-/

set_option autoImplicit false

namespace CypherFragments.Yaml

/-- A node with the number of its anchor, if it has one. -/
inductive Node
  | reference (target : Nat)
  | scalar (anchor : Option Nat) (text : String) (plain : Bool)
  | sequence (anchor : Option Nat) (items : List Node)
  | mapping (anchor : Option Nat) (entries : List (Node × Node))
  deriving Repr, Inhabited

/-- The tokens that are left, the tag handles that may be used and the anchors named so far. A new
anchor is numbered by how many names there are; a repeated name refers to the newer number. -/
structure Source where
  tokens : List Token
  handles : List String
  anchors : Table Nat

namespace Source

def head? (s : Source) : Option Token := s.tokens.head?

def next (s : Source) : Source := { s with tokens := s.tokens.tail }

def addAnchor (s : Source) (name : String) : Nat × Source :=
  let n := s.anchors.entries.length
  (n, { s with anchors := s.anchors.insert name n })

/-- The properties of a node: whether there are any, and its anchor. Handles of tags have to be
declared; the empty handle needs no declaration. -/
def properties (s : Source) : Option (Bool × Option String × Source) :=
  let tagged (h : String) (name : Option String) (r : List Token) :=
    if h.isEmpty || s.handles.contains h then some (true, name, { s with tokens := r }) else none
  match s.tokens with
  | .anchor a :: .tag h :: r => tagged h (some a) r
  | .anchor a :: r => some (true, some a, { s with tokens := r })
  | .tag h :: .anchor a :: r => tagged h (some a) r
  | .tag h :: r => tagged h none r
  | _ => some (false, none, s)

end Source

namespace Node

/-- A node that is not written. -/
def empty : Node := scalar none "" true

/-- What the items of a flow collection stop at. -/
def flowStops (close : Token) : List Token := [.value, .flowEntry, close]

/-- Where a node stands. -/
structure Place where
  /-- Block collections may start here. -/
  block : Bool := false
  /-- A sequence may start here without further indentation. -/
  indentless : Bool := false

mutual

/-- A node. `fuel` bounds the nesting and the length of collections. -/
def read? (fuel : Nat) (place : Place) (s : Source) : Option (Node × Source) :=
  match fuel with
  | 0 => none
  | fuel + 1 =>
    match s.head? with
    | some (.reference name) => (s.anchors.get? name).map fun n => (reference n, s.next)
    | _ => do
      let (given, name, s) ← s.properties
      let (anchor, s) := match name with
        | some name => let (n, s) := s.addAnchor name; (some n, s)
        | none => (none, s)
      match s.head? with
      | some (.scalar text plain) => return (scalar anchor text plain, s.next)
      | some .flowSequence => do
        let (items, s) ← flowItems? fuel true s.next
        return (sequence anchor items, s)
      | some .flowMapping => do
        let (entries, s) ← flowEntries? fuel true s.next
        return (mapping anchor entries, s)
      | some .blockEntry =>
        if place.indentless then do
          let (items, s) ← indentlessItems? fuel s
          return (sequence anchor items, s)
        else if given then return (scalar anchor "" true, s) else none
      | some .blockSequence =>
        if place.block then do
          let (items, s) ← blockItems? fuel s.next
          return (sequence anchor items, s)
        else if given then return (scalar anchor "" true, s) else none
      | some .blockMapping =>
        if place.block then do
          let (entries, s) ← blockEntries? fuel s.next
          return (mapping anchor entries, s)
        else if given then return (scalar anchor "" true, s) else none
      | _ => if given then return (scalar anchor "" true, s) else none

/-- A node, or the empty node in front of one of `stops`. -/
def readBefore? (fuel : Nat) (place : Place) (stops : List Token) (s : Source) :
    Option (Node × Source) :=
  match fuel with
  | 0 => none
  | fuel + 1 =>
    if s.head?.any stops.contains then some (empty, s) else read? fuel place s

def blockItems? (fuel : Nat) (s : Source) : Option (List Node × Source) :=
  match fuel with
  | 0 => none
  | fuel + 1 =>
    match s.head? with
    | some .blockEntry => do
      let (v, s) ← readBefore? fuel { block := true } [.blockEntry, .blockEnd] s.next
      let (vs, s) ← blockItems? fuel s
      return (v :: vs, s)
    | some .blockEnd => some ([], s.next)
    | _ => none

def indentlessItems? (fuel : Nat) (s : Source) : Option (List Node × Source) :=
  match fuel with
  | 0 => none
  | fuel + 1 =>
    match s.head? with
    | some .blockEntry => do
      let (v, s) ←
        readBefore? fuel { block := true } [.blockEntry, .key, .value, .blockEnd] s.next
      let (vs, s) ← indentlessItems? fuel s
      return (v :: vs, s)
    | _ => some ([], s)

def blockEntries? (fuel : Nat) (s : Source) : Option (List (Node × Node) × Source) :=
  match fuel with
  | 0 => none
  | fuel + 1 => do
    let side (s : Source) : Option (Node × Source) :=
      readBefore? fuel { block := true, indentless := true } [.key, .value, .blockEnd] s
    match s.head? with
    | some .key => do
      let (k, s) ← side s.next
      let (v, s) ← if s.head? = some .value then side s.next else some (empty, s)
      let (es, s) ← blockEntries? fuel s
      return ((k, v) :: es, s)
    | some .blockEnd => some ([], s.next)
    | _ => none

def flowItems? (fuel : Nat) (first : Bool) (s : Source) : Option (List Node × Source) :=
  match fuel with
  | 0 => none
  | fuel + 1 =>
    if s.head? = some .flowSequenceEnd then some ([], s.next)
    else do
      let s ← if first then some s else if s.head? = some .flowEntry then some s.next else none
      match s.head? with
      | some .flowSequenceEnd => return ([], s.next)
      | some .key => do
        let (e, s) ← flowPair? fuel s.next
        let (vs, s) ← flowItems? fuel false s
        return (mapping none [e] :: vs, s)
      | _ => do
        let (v, s) ← read? fuel {} s
        let (vs, s) ← flowItems? fuel false s
        return (v :: vs, s)

/-- An entry of a mapping that is an item of a flow sequence. Where its key is missing, the token
after it is passed over. -/
def flowPair? (fuel : Nat) (s : Source) : Option ((Node × Node) × Source) :=
  match fuel with
  | 0 => none
  | fuel + 1 => do
    let (k, s) ←
      if s.head?.any (flowStops .flowSequenceEnd).contains then some (empty, s.next)
      else read? fuel {} s
    let (v, s) ←
      if s.head? = some .value then
        readBefore? fuel {} [.flowEntry, .flowSequenceEnd] s.next
      else some (empty, s)
    return ((k, v), s)

def flowEntries? (fuel : Nat) (first : Bool) (s : Source) :
    Option (List (Node × Node) × Source) :=
  match fuel with
  | 0 => none
  | fuel + 1 =>
    if s.head? = some .flowMappingEnd then some ([], s.next)
    else do
      let s ← if first then some s else if s.head? = some .flowEntry then some s.next else none
      match s.head? with
      | some .flowMappingEnd => return ([], s.next)
      | some .key => do
        let (k, s) ← readBefore? fuel {} (flowStops .flowMappingEnd) s.next
        let (v, s) ←
          if s.head? = some .value then
            readBefore? fuel {} [.flowEntry, .flowMappingEnd] s.next
          else some (empty, s)
        let (es, s) ← flowEntries? fuel false s
        return ((k, v) :: es, s)
      | _ => do
        let (k, s) ← read? fuel {} s
        let (es, s) ← flowEntries? fuel false s
        return ((k, empty) :: es, s)

end

/-! ## Anchored nodes -/

mutual

/-- The anchored nodes in a tree, with their numbers, in the order in which they start. -/
def anchored : Node → List (Nat × Node)
  | reference _ => []
  | scalar a s p => (a.map fun n => (n, scalar a s p)).toList
  | sequence a vs => (a.map fun n => (n, sequence a vs)).toList ++ anchoredItems vs
  | mapping a es => (a.map fun n => (n, mapping a es)).toList ++ anchoredEntries es

def anchoredItems : List Node → List (Nat × Node)
  | [] => []
  | v :: vs => anchored v ++ anchoredItems vs

def anchoredEntries : List (Node × Node) → List (Nat × Node)
  | [] => []
  | (k, v) :: es => anchored k ++ anchored v ++ anchoredEntries es

end

/-! ## Size -/

mutual

/-- A scalar or an alias counts one, a collection two more than its parts. -/
def size : Node → Nat
  | reference _ => 1
  | scalar _ _ _ => 1
  | sequence _ vs => sizeItems vs + 2
  | mapping _ es => sizeEntries es + 2

def sizeItems : List Node → Nat
  | [] => 0
  | v :: vs => size v + sizeItems vs

def sizeEntries : List (Node × Node) → Nat
  | [] => 0
  | (k, v) :: es => size k + size v + sizeEntries es

end

end Node

end CypherFragments.Yaml
