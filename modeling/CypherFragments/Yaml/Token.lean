import CypherFragments.Yaml.Scalar

/-!
# Tokens

The marks and scalars of a YAML text. `Token.scan?` finds them from left to right; indentation
becomes tokens that open and close block collections. A key is known as one only at the colon after
it, so the token that announces it is put in front of tokens already found.
-/

set_option autoImplicit false

namespace CypherFragments.Yaml

inductive Token
  | version (major minor : Nat)
  | tagHandle (handle : String)
  | documentStart
  | documentEnd
  | blockSequence
  | blockMapping
  | blockEnd
  | flowSequence
  | flowSequenceEnd
  | flowMapping
  | flowMappingEnd
  | blockEntry
  | flowEntry
  | key
  | value
  | reference (name : String)
  | anchor (name : String)
  /-- A tag, of which only the handle is kept. -/
  | tag (handle : String)
  | scalar (text : String) (plain : Bool)
  deriving DecidableEq, Repr

/-- Where a key may have started. A required one stands where only a key can. -/
structure KeyStart where
  required : Bool
  position : Nat
  offset : Nat
  line : Nat
  column : Nat

/-- The tokens found so far and what decides about the next one. -/
structure Lexer where
  cursor : Cursor
  tokens : List Token := []
  /-- The column of the innermost block collection, `-1` outside all of them. -/
  indent : Int := -1
  /-- The columns of the block collections around it. -/
  outer : List Int := []
  flowLevel : Nat := 0
  /-- A key may start here. -/
  keyAllowed : Bool := true
  /-- The possible key of the current level. -/
  keyStart : Option KeyStart := none
  /-- Those of the flow levels around it. -/
  outerKeys : List (Option KeyStart) := []

namespace Lexer

def inFlow (l : Lexer) : Bool := l.flowLevel != 0

def emit (l : Lexer) (t : Token) : Lexer := { l with tokens := l.tokens ++ [t] }

def emitAt (l : Lexer) (position : Nat) (t : Token) : Lexer :=
  { l with tokens := l.tokens.take position ++ t :: l.tokens.drop position }

/-- A token written with `n` characters. -/
def emitMark (l : Lexer) (n : Nat) (t : Token) : Lexer :=
  { l with cursor := l.cursor.skip n }.emit t

/-! ## Indentation -/

/-- Opens a block collection at `column`, its token at `position`, if that is further in. -/
def openBlock (l : Lexer) (column : Nat) (position : Nat) (t : Token) : Lexer :=
  if !l.inFlow && l.indent < column then
    { l.emitAt position t with indent := column, outer := l.indent :: l.outer }
  else l

/-- Closes the block collections further in than `column`. -/
def closeBlocks (column : Int) (l : Lexer) : Lexer :=
  if l.inFlow then l else go l l.outer
where
  go (l : Lexer) : List Int → Lexer
    | [] => l
    | i :: is =>
      if column < l.indent then go { l.emit .blockEnd with indent := i, outer := is } is else l

/-! ## Keys -/

/-- A key has to end on the line it starts on, within 1024 bytes. -/
def isStale (l : Lexer) (k : KeyStart) : Bool :=
  k.line < l.cursor.line || k.offset + 1024 < l.cursor.offset

/-- Gives up keys that have not ended in time, which a required one must. -/
def dropStaleKeys (l : Lexer) : Option Lexer :=
  let stale (k : Option KeyStart) : Bool := k.any l.isStale
  let keys := l.keyStart :: l.outerKeys
  if keys.any fun k => k.any (·.required) && stale k then none
  else
    let keep (k : Option KeyStart) : Option KeyStart := if stale k then none else k
    some { l with keyStart := keep l.keyStart, outerKeys := l.outerKeys.map keep }

/-- Gives up the possible key of this level. -/
def dropKey (l : Lexer) : Option Lexer :=
  if l.keyStart.any (·.required) then none else some { l with keyStart := none }

/-- Notes that a key may start here. -/
def saveKey (l : Lexer) : Option Lexer :=
  if l.keyAllowed then do
    let required := !l.inFlow && l.indent == l.cursor.column
    let l ← l.dropKey
    return { l with
      keyStart :=
        some ⟨required, l.tokens.length, l.cursor.offset, l.cursor.line, l.cursor.column⟩ }
  else some l

/-! ## Blanks and comments -/

/-- Passes over blanks and a comment. A tab is no indentation, so where a key may start it is not
passed over. A byte order mark may start a line, and takes a column of it. -/
def skipBlanks (l : Lexer) : Cursor :=
  let c := l.cursor
  let c := if c.column = 0 ∧ c.head?.any isMark then c.next else c
  let c := c.skipWhile fun a => a == ' ' || (a == '\t' && (l.inFlow || !l.keyAllowed))
  if c.head? = some '#' then c.skipLine else c

/-- Goes to the next token. A key may start on a new line. -/
def toToken (l : Lexer) : Lexer :=
  let c := l.skipBlanks
  if c.head?.any isBreak ∧ c.next.rest.length < l.cursor.rest.length then
    toToken { l with cursor := c.next, keyAllowed := if l.inFlow then l.keyAllowed else true }
  else { l with cursor := c }
termination_by l.cursor.rest.length
decreasing_by rename_i h; exact h.2

/-! ## Directives -/

def digits (s : List Char) : Nat := s.foldl (fun n c => 10 * n + (c.toNat - '0'.toNat)) 0

/-- A version number, of nine digits at most. -/
def versionNumber (c : Cursor) : Option (Nat × Cursor) :=
  let (ds, c) := c.take Char.isDigit
  if ds.isEmpty ∨ 9 < ds.length then none else some (digits ds, c)

def version (c : Cursor) : Option (Token × Cursor) := do
  let (major, c) ← versionNumber (c.skipWhile isBlank)
  if c.head? ≠ some '.' then failure
  let (minor, c) ← versionNumber c.next
  return (.version major minor, c)

/-- `!`, `!!` or `!name!`; of a tag also `!name`, where the handle ends with the first character. -/
def handle (inDirective : Bool) (c : Cursor) : Option (List Char × Cursor) :=
  if c.head? ≠ some '!' then none
  else
    let (name, c) := c.next.take isWordChar
    if c.head? = some '!' then some ('!' :: name ++ ['!'], c.next)
    else if inDirective && !name.isEmpty then none
    else some ('!' :: name, c)

def isUriChar (verbatim : Bool) (c : Char) : Bool :=
  isWordChar c || ";/?:@&=+$.!~*'()".toList.contains c
    || (verbatim && (c == ',' || c == '[' || c == ']'))

/-- The number of bytes of the character whose UTF-8 form starts with `b`. -/
def sequenceLength (b : Nat) : Nat :=
  if b < 0x80 then 1
  else if 0xc0 ≤ b ∧ b < 0xe0 then 2
  else if 0xe0 ≤ b ∧ b < 0xf0 then 3
  else if 0xf0 ≤ b ∧ b < 0xf8 then 4
  else 0

/-- A byte written as `%` and two hexadecimal digits. -/
def escapedByte? (s : List Char) : Option Nat :=
  match s with
  | '%' :: a :: b :: _ => do return 16 * (← hexValue? a) + (← hexValue? b)
  | _ => none

/-- The number of characters of an escaped character. -/
def escapedLength? (s : List Char) : Option Nat := do
  let n := sequenceLength (← escapedByte? s)
  let trailing := (List.range (n - 1)).all fun i =>
    match escapedByte? (s.drop (3 * (i + 1))) with
    | some b => 0x80 ≤ b && b < 0xc0
    | none => false
  if n = 0 ∨ !trailing then none else some (3 * n)

/-- Passes over the characters of a tag, of which there are `n` already. -/
def uri (verbatim : Bool) (n : Nat) (c : Cursor) : Option Cursor :=
  match c.head? with
  | some '%' =>
    match escapedLength? c.rest with
    | none => none
    | some m =>
      let next := c.skip m
      if next.rest.length < c.rest.length then uri verbatim (n + 1) next else none
  | some a =>
    if isUriChar verbatim a && c.next.rest.length < c.rest.length then
      uri verbatim (n + 1) c.next
    else if n = 0 then none else some c
  | none => if n = 0 then none else some c
termination_by c.rest.length
decreasing_by
  · assumption
  · simp_all

def tagDirective (c : Cursor) : Option (Token × Cursor) := do
  let (name, c) ← handle true (c.skipWhile isBlank)
  if !(c.head?.any isBlank) then failure
  let c ← uri true 0 (c.skipWhile isBlank)
  if !(isGap c.head?) then failure
  return (.tagHandle (String.ofList name), c)

/-- A directive after its `%`, up to the end of its line. -/
def directive (c : Cursor) : Option (Token × Cursor) := do
  let (name, c) := c.take isWordChar
  if name.isEmpty ∨ !(isGap c.head?) then failure
  let (t, c) ←
    if name = "YAML".toList then version c
    else if name = "TAG".toList then tagDirective c
    else none
  let c := c.skipWhile isBlank
  let c := if c.head? = some '#' then c.skipLine else c
  if !(c.head?.all isBreak) then failure
  return (t, c.next)

/-! ## Properties of nodes -/

/-- What may stand right after the name of an anchor. -/
def endsName (c : Option Char) : Bool :=
  isGap c || c.any fun a => ['?', ':', ',', ']', '\x7d', '%', '@', '\x60'].contains a

/-- The name of an anchor or alias. -/
def anchorName (c : Cursor) : Option (String × Cursor) :=
  let (name, c) := c.take isWordChar
  if name.isEmpty ∨ !(endsName c.head?) then none else some (String.ofList name, c)

/-- A tag: its handle and the place after it. A tag in angle brackets and `!` alone have no
handle. -/
def tag (inFlow : Bool) (c : Cursor) : Option (String × Cursor) := do
  let (name, c) ←
    if c.ahead? 1 = some '<' then do
      let c ← uri true 0 (c.skip 2)
      if c.head? ≠ some '>' then failure
      pure ([], c.next)
    else do
      let (name, afterName) ← handle false c
      if 1 < name.length ∧ name.getLast? = some '!' then do
        let c ← uri false 0 afterName
        pure (name, c)
      else do
        let end' ← uri false name.length afterName
        pure (if name = ['!'] ∧ end'.offset = afterName.offset then [] else ['!'], end')
  if !(isGap c.head?) ∧ !(inFlow && c.head? = some ',') then failure
  return (String.ofList name, c)

/-! ## One token -/

/-- The opening bracket of a flow collection, which may itself start a key. -/
def openFlow (l : Lexer) (t : Token) : Option Lexer := do
  let l ← l.saveKey
  return { l.emitMark 1 t with
    keyAllowed := true
    flowLevel := l.flowLevel + 1
    keyStart := none
    outerKeys := l.keyStart :: l.outerKeys }

def closeFlow (l : Lexer) (t : Token) : Option Lexer := do
  let l ← l.dropKey
  let l := { l.emitMark 1 t with keyAllowed := false }
  return match l.outerKeys with
    | k :: ks => { l with flowLevel := l.flowLevel - 1, keyStart := k, outerKeys := ks }
    | [] => l

def flowEntry (l : Lexer) : Option Lexer := do
  let l ← l.dropKey
  return { l.emitMark 1 .flowEntry with keyAllowed := true }

def blockEntry (l : Lexer) : Option Lexer := do
  if !l.inFlow ∧ !l.keyAllowed then failure
  let l := l.openBlock l.cursor.column l.tokens.length .blockSequence
  let l ← l.dropKey
  return { l.emitMark 1 .blockEntry with keyAllowed := true }

/-- A key after a question mark. -/
def explicitKey (l : Lexer) : Option Lexer := do
  if !l.inFlow ∧ !l.keyAllowed then failure
  let l := l.openBlock l.cursor.column l.tokens.length .blockMapping
  let l ← l.dropKey
  return { l.emitMark 1 .key with keyAllowed := !l.inFlow }

/-- A colon, which makes a key of what may have been one. -/
def value (l : Lexer) : Option Lexer :=
  match l.keyStart with
  | some k =>
    let l := (l.emitAt k.position .key).openBlock k.column k.position .blockMapping
    some { l.emitMark 1 .value with keyStart := none, keyAllowed := false }
  | none => do
    if !l.inFlow ∧ !l.keyAllowed then failure
    let l := l.openBlock l.cursor.column l.tokens.length .blockMapping
    return { l.emitMark 1 .value with keyAllowed := !l.inFlow }

/-- A token that may start a key, read by `read` from the place of `l`. -/
def content (l : Lexer) (read : Cursor → Option (Token × Cursor)) : Option Lexer := do
  let l ← l.saveKey
  let (t, c) ← read l.cursor
  return { l.emit t with cursor := c, keyAllowed := false }

def plain (l : Lexer) : Option Lexer := do
  let l ← l.saveKey
  let p ← plainScalar l.inFlow (l.indent + 1) [] {} l.cursor
  return { l.emit (.scalar (String.ofList p.text) true) with
    cursor := p.cursor, keyAllowed := p.onNewLine }

def quoted (l : Lexer) (double : Bool) : Option Lexer :=
  l.content fun c => (quotedScalar double [] c.next).map fun (s, c) =>
    (.scalar (String.ofList s) false, c)

def block (l : Lexer) (literal : Bool) : Option Lexer := do
  let l ← l.dropKey
  let (s, c) ← blockScalar literal l.indent l.cursor.next
  return { l.emit (.scalar (String.ofList s) false) with cursor := c, keyAllowed := true }

/-- A mark that ends all block collections, read from `l`. -/
def outermost (l : Lexer) (read : Cursor → Option (Token × Cursor)) : Option Lexer := do
  let l ← (l.closeBlocks (-1)).dropKey
  let (t, c) ← read l.cursor
  return { l.emit t with cursor := c, keyAllowed := false }

/-- A plain scalar starts with no indicator, or with one of `-?:` before a word. -/
def startsPlain (l : Lexer) (a : Char) : Bool :=
  if a = '-' then !(l.cursor.ahead? 1).any isBlank
  else if a = '?' ∨ a = ':' then !l.inFlow && !isGap (l.cursor.ahead? 1)
  else !(",[]\x7b\x7d#&*!|>'\"%@\x60".toList.contains a || isBlank a)

/-- The token at the character `a`. -/
def token (l : Lexer) (a : Char) : Option Lexer :=
  let c := l.cursor
  let gapAfter := isGap (c.ahead? 1)
  if c.column = 0 ∧ a = '%' then l.outermost fun c => directive c.next
  else if c.atDocumentStart then l.outermost fun c => some (.documentStart, c.skip 3)
  else if c.atDocumentEnd then l.outermost fun c => some (.documentEnd, c.skip 3)
  else if a = '[' then l.openFlow .flowSequence
  else if a = '\x7b' then l.openFlow .flowMapping
  else if a = ']' then l.closeFlow .flowSequenceEnd
  else if a = '\x7d' then l.closeFlow .flowMappingEnd
  else if a = ',' then l.flowEntry
  else if a = '-' ∧ gapAfter then l.blockEntry
  else if a = '?' ∧ (l.inFlow ∨ gapAfter) then l.explicitKey
  else if a = ':' ∧ (l.inFlow ∨ gapAfter) then l.value
  else if a = '*' then l.content fun c => (anchorName c.next).map fun (n, c) => (.reference n, c)
  else if a = '&' then l.content fun c => (anchorName c.next).map fun (n, c) => (.anchor n, c)
  else if a = '!' then l.content fun c => (tag l.inFlow c).map fun (n, c) => (.tag n, c)
  else if a = '|' ∧ !l.inFlow then l.block true
  else if a = '>' ∧ !l.inFlow then l.block false
  else if a = '\'' then l.quoted false
  else if a = '"' then l.quoted true
  else if l.startsPlain a then l.plain
  else none

/-- All tokens from `l` on. -/
def run (l : Lexer) : Option (List Token) :=
  let next := l.toToken
  match next.dropStaleKeys with
  | none => none
  | some next =>
    let next := next.closeBlocks next.cursor.column
    match next.cursor.head? with
    | none => ((next.closeBlocks (-1)).dropKey).map (·.tokens)
    | some a =>
      match next.token a with
      | none => none
      | some after =>
        if after.cursor.rest.length < l.cursor.rest.length then run after else none
termination_by l.cursor.rest.length

end Lexer

/-- The tokens of a text. -/
def Token.scan? (s : String) : Option (List Token) :=
  if s.toList.all isAllowed then Lexer.run { cursor := .start (normalize s.toList) } else none

end CypherFragments.Yaml
