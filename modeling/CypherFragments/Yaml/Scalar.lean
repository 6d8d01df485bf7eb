import CypherFragments.Yaml.Cursor

/-!
# Scalars

The three styles of scalar texts: plain, quoted and block. Line breaks inside plain and quoted
scalars are folded; a block scalar folds them if it is a `>` scalar.
-/

set_option autoImplicit false

namespace CypherFragments.Yaml

/-! ## Gaps between words -/

/-- White space inside a scalar. -/
structure Gap where
  spaces : List Char := []
  /-- The first line break; an escaped one counts, but leaves no character. -/
  lead : Option (List Char) := none
  /-- The line breaks after it. -/
  more : List Char := []

namespace Gap

/-- One line feed becomes a blank, more of them lose the first. -/
def fold (g : Gap) : List Char :=
  match g.lead with
  | none => g.spaces
  | some ['\n'] => if g.more.isEmpty then [' '] else g.more
  | some l => l ++ g.more

def add (g : Gap) (c : Char) : Gap :=
  if isBreak c then
    match g.lead with
    | none => { g with lead := some [c], spaces := [] }
    | some _ => { g with more := g.more ++ [c] }
  else
    match g.lead with
    | none => { g with spaces := g.spaces ++ [c] }
    | some _ => g

/-- Reads white space, `g` being what has been read so far. After a break no tab may stand left of
`indent`. -/
def read (indent : Int) (g : Gap) (column : Nat) : List Char → Option Gap
  | [] => some g
  | c :: r =>
    if isBreak c then read indent (g.add c) 0 r
    else if isBlank c then
      if g.lead.isSome ∧ (column : Int) < indent ∧ c = '\t' then none
      else read indent (g.add c) (column + 1) r
    else some g

end Gap

/-! ## Plain scalars -/

/-- A character that structures a flow collection. -/
def isFlowIndicator (c : Char) : Bool :=
  c == ',' || c == '[' || c == ']' || c == '\x7b' || c == '\x7d'

/-- The next word of a plain scalar. In a flow collection a colon must not stand right before a flow
indicator or a question mark. -/
def plainWord (inFlow : Bool) : List Char → Option (List Char)
  | [] => some []
  | c :: r =>
    if isBlank c || isBreak c then some []
    else if inFlow && c == ':' && r.head?.any (fun d => isFlowIndicator d || d == '?') then none
    else if (c == ':' && isGap r.head?) || (inFlow && isFlowIndicator c) then some []
    else (plainWord inFlow r).map (c :: ·)

/-- A scalar text, the place after it, and whether it was left on a new line. -/
structure PlainText where
  text : List Char
  cursor : Cursor
  onNewLine : Bool

/-- A plain scalar: words and the gaps between them. `indent` is the least column of its lines. -/
def plainScalar (inFlow : Bool) (indent : Int) (text : List Char) (gap : Gap) (c : Cursor) :
    Option PlainText :=
  let done : PlainText := ⟨text, c, gap.lead.isSome⟩
  if c.atDocumentStart || c.atDocumentEnd || c.head? = some '#' then some done
  else
    match plainWord inFlow c.rest with
    | none => none
    | some [] => some done
    | some (w :: ws) =>
      let word := w :: ws
      let text := text ++ gap.fold ++ word
      let afterWord := c.skip word.length
      match Gap.read indent {} afterWord.column afterWord.rest with
      | none => none
      | some gap =>
        let next := afterWord.skipWhile fun a => isBlank a || isBreak a
        if !inFlow && (next.column : Int) < indent then some ⟨text, next, gap.lead.isSome⟩
        else if next.rest.length < c.rest.length then plainScalar inFlow indent text gap next
        else none
termination_by c.rest.length

/-! ## Quoted scalars -/

/-- What a run of quoted characters ends at. -/
inductive QuotedStop
  | quote
  | gap
  /-- A break after a backslash. -/
  | escapedBreak

/-- A run of quoted characters and the number of characters that it is written with. -/
structure QuotedRun where
  text : List Char
  length : Nat
  stop : QuotedStop

namespace QuotedRun

def stopAt (stop : QuotedStop) (length : Nat) : QuotedRun := ⟨[], length, stop⟩

def cons (c : Char) (length : Nat) (r : QuotedRun) : QuotedRun :=
  ⟨c :: r.text, length + r.length, r.stop⟩

end QuotedRun

/-- Between single quotes a quote is written twice. -/
def singleRun : List Char → QuotedRun
  | [] => .stopAt .gap 0
  | '\'' :: '\'' :: r => (singleRun r).cons '\'' 2
  | c :: r =>
    if c = '\'' then .stopAt .quote 0
    else if isBlank c || isBreak c then .stopAt .gap 0
    else (singleRun r).cons c 1

/-- The character of a one-letter escape. -/
def simpleEscape? (c : Char) : Option Char :=
  match c with
  | '0' => some '\x00'
  | 'a' => some '\x07'
  | 'b' => some '\x08'
  | 't' => some '\t'
  | '\t' => some '\t'
  | 'n' => some '\n'
  | 'v' => some '\x0b'
  | 'f' => some '\x0c'
  | 'r' => some '\r'
  | 'e' => some '\x1b'
  | ' ' => some ' '
  | '"' => some '"'
  | '/' => some '/'
  | '\\' => some '\\'
  | 'N' => some '\u0085'
  | '_' => some '\u00a0'
  | 'L' => some '\u2028'
  | 'P' => some '\u2029'
  | _ => none

/-- The number of hexadecimal digits of a numeric escape. -/
def escapeLength? (c : Char) : Option Nat :=
  match c with
  | 'x' => some 2
  | 'u' => some 4
  | 'U' => some 8
  | _ => none

def hexValue? (c : Char) : Option Nat :=
  if c.isDigit then some (c.toNat - '0'.toNat)
  else if 'a'.toNat ≤ c.toNat ∧ c.toNat ≤ 'f'.toNat then some (c.toNat - 'a'.toNat + 10)
  else if 'A'.toNat ≤ c.toNat ∧ c.toNat ≤ 'F'.toNat then some (c.toNat - 'A'.toNat + 10)
  else none

/-- The character with the number that `n` hexadecimal digits at the start of `s` give. -/
def numericEscape? (n : Nat) (s : List Char) : Option Char :=
  let ds := s.take n
  if ds.length < n then none
  else
    match ds.foldlM (fun v c => (hexValue? c).map (16 * v + ·)) 0 with
    | none => none
    | some v => if (0xd800 ≤ v ∧ v ≤ 0xdfff) ∨ 0x10ffff < v then none else some (Char.ofNat v)

/-- Between double quotes a backslash starts an escape. -/
def doubleRun (s : List Char) : Option QuotedRun :=
  match s with
  | [] => some (.stopAt .gap 0)
  | '\\' :: [] => none
  | '\\' :: e :: r =>
    if isBreak e then some (.stopAt .escapedBreak 2)
    else
      match simpleEscape? e with
      | some c => (doubleRun r).map (.cons c 2)
      | none =>
        match escapeLength? e with
        | none => none
        | some n =>
          match numericEscape? n r with
          | none => none
          | some c => (doubleRun (r.drop n)).map (.cons c (2 + n))
  | c :: r =>
    if c = '"' then some (.stopAt .quote 0)
    else if isBlank c || isBreak c then some (.stopAt .gap 0)
    else (doubleRun r).map (.cons c 1)
termination_by s.length
decreasing_by all_goals (simp [List.length_drop]; try omega)

/-- A quoted scalar after its opening quote, up to the place after the closing one. -/
def quotedScalar (double : Bool) (text : List Char) (c : Cursor) : Option (List Char × Cursor) :=
  if c.atDocumentStart || c.atDocumentEnd || c.rest.isEmpty then none
  else
    match if double then doubleRun c.rest else some (singleRun c.rest) with
    | none => none
    | some run =>
      let text := text ++ run.text
      let afterRun := c.skip run.length
      match run.stop with
      | .quote => some (text, afterRun.next)
      | stop =>
        let lead := match stop with
          | .escapedBreak => some []
          | _ => none
        match Gap.read 0 { lead := lead } afterRun.column afterRun.rest with
        | none => none
        | some gap =>
          let next := afterRun.skipWhile fun a => isBlank a || isBreak a
          if next.rest.length < c.rest.length then quotedScalar double (text ++ gap.fold) next
          else none
termination_by c.rest.length

/-! ## Block scalars -/

/-- What becomes of the line breaks at the end of a block scalar. -/
inductive Chomping
  | strip
  | clip
  | keep

/-- The `+`, `-` and digit after the indicator of a block scalar, in either order. -/
structure BlockHeader where
  chomping : Chomping := .clip
  indent : Option Nat := none

def chomping? : Option Char → Option Chomping
  | some '+' => some .keep
  | some '-' => some .strip
  | _ => none

/-- The digit of a header, which is not zero. -/
def indentDigit? (c : Option Char) : Option (Option Nat) :=
  match c with
  | some d =>
    if d = '0' then none
    else if d.isDigit then some (some (d.toNat - '0'.toNat)) else some none
  | none => some none

def blockHeader (c : Cursor) : Option (BlockHeader × Cursor) :=
  match chomping? c.head? with
  | some chomping =>
    (indentDigit? c.next.head?).map fun n =>
      (⟨chomping, n⟩, if n.isSome then c.skip 2 else c.next)
  | none =>
    match indentDigit? c.head? with
    | none => none
    | some none => some ({}, c)
    | some (some n) =>
      match chomping? c.next.head? with
      | some chomping => some (⟨chomping, some n⟩, c.skip 2)
      | none => some (⟨.clip, some n⟩, c.next)

/-- The empty lines before a line of a block scalar. -/
structure EmptyLines where
  /-- The widest indentation seen. -/
  width : Nat
  breaks : List Char
  /-- The number of characters up to the text of the next line. -/
  length : Nat

/-- Reads indentation and line breaks. Up to the column `indent`, or everywhere if it is not known
yet, indentation is made of blanks and not of tabs. -/
def emptyLines (indent : Option Nat) (e : EmptyLines) (column : Nat) : List Char → Option EmptyLines
  | [] => some { e with width := max e.width column }
  | c :: r =>
    let indenting := indent.all fun n => column < n
    if indenting && c == ' ' then
      emptyLines indent { e with length := e.length + 1 } (column + 1) r
    else if indenting && c == '\t' then none
    else if isBreak c then
      emptyLines indent
        { width := max e.width column, breaks := e.breaks ++ [c], length := e.length + 1 } 0 r
    else some { e with width := max e.width column }

def emptyLinesAt (indent : Option Nat) (c : Cursor) : Option (EmptyLines × Cursor) :=
  (emptyLines indent ⟨0, [], 0⟩ c.column c.rest).map fun e => (e, c.skip e.length)

/-- What has been read of a block scalar. -/
structure BlockText where
  text : List Char := []
  /-- The break after the last line. -/
  lead : List Char := []
  /-- The breaks of the empty lines after it. -/
  more : List Char := []
  /-- The last line started with a blank. -/
  blankStart : Bool := false

namespace BlockText

/-- What stands between the lines read so far and one that starts with a blank or not. -/
def join (literal : Bool) (b : BlockText) (blankStart : Bool) : List Char :=
  if !literal && b.lead == ['\n'] && !b.blankStart && !blankStart then
    if b.more.isEmpty then [' '] else b.more
  else b.lead ++ b.more

def chomp (b : BlockText) : Chomping → List Char
  | .strip => b.text
  | .clip => b.text ++ b.lead
  | .keep => b.text ++ b.lead ++ b.more

end BlockText

/-- The lines of a block scalar that are indented by `indent`. -/
def blockLines (literal : Bool) (indent : Nat) (b : BlockText) (c : Cursor) :
    Option (BlockText × Cursor) :=
  if c.column ≠ indent || c.rest.isEmpty then some (b, c)
  else
    let blankStart := c.head?.any isBlank
    let (line, lineEnd) := c.take (!isBreak ·)
    let text := b.text ++ b.join literal blankStart ++ line
    match emptyLinesAt (some indent) lineEnd.next with
    | none => none
    | some (e, next) =>
      if next.rest.length < c.rest.length then
        blockLines literal indent ⟨text, lineEnd.head?.toList, e.breaks, blankStart⟩ next
      else none
termination_by c.rest.length

/-- A block scalar after its indicator, inside a collection at the column `parent`, which is `-1`
outside all collections. -/
def blockScalar (literal : Bool) (parent : Int) (c : Cursor) : Option (List Char × Cursor) := do
  let (header, c) ← blockHeader c
  let c := c.skipWhile isBlank
  let c := if c.head? = some '#' then c.skipLine else c
  if !(c.head?.all isBreak) then failure
  let c := c.next
  let given := header.indent.map fun n => if 0 ≤ parent then parent.toNat + n else n
  let (e, c) ← emptyLinesAt given c
  let indent := given.getD (max e.width (max (parent + 1) 1).toNat)
  let (b, c) ← blockLines literal indent { more := e.breaks } c
  return (b.chomp header.chomping, c)

end CypherFragments.Yaml
