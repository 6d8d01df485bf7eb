/-!
# Positions in YAML text

Indentation decides the structure of YAML, so what is left of a text goes with its column.
-/

set_option autoImplicit false

namespace CypherFragments.Yaml

/-! ## Characters -/

/-- Line feed, or the line or paragraph separator: all breaks that `normalize` leaves. -/
def isBreak (c : Char) : Bool := c == '\n' || c == '\u2028' || c == '\u2029'

def isBlank (c : Char) : Bool := c == ' ' || c == '\t'

/-- Blank, break or end of the text. -/
def isGap : Option Char → Bool
  | none => true
  | some c => isBlank c || isBreak c

/-- Characters of anchors, tag handles and directive names. -/
def isWordChar (c : Char) : Bool := c.isAlphanum || c == '_' || c == '-'

/-- The characters that a text may hold. -/
def isAllowed (c : Char) : Bool :=
  let n := c.toNat
  n == 0x09 || n == 0x0a || n == 0x0d || (0x20 ≤ n && n ≤ 0x7e) || n == 0x85
    || (0xa0 ≤ n && n ≤ 0xfffd) || 0x10000 ≤ n

/-- The byte order mark. -/
def isMark (c : Char) : Bool := c == '\ufeff'

/-- All ways to end a line become a line feed, but the line and paragraph separators stay. -/
def normalize : List Char → List Char
  | '\r' :: '\n' :: r => '\n' :: normalize r
  | c :: r => (if c = '\r' ∨ c = '\u0085' then '\n' else c) :: normalize r
  | [] => []

/-! ## Positions -/

/-- What is left of a text, and where it starts. -/
structure Cursor where
  rest : List Char
  /-- Bytes of UTF-8 before it. -/
  offset : Nat
  line : Nat
  /-- Characters before it on its line. -/
  column : Nat

namespace Cursor

def start (s : List Char) : Cursor := ⟨s, 0, 0, 0⟩

def head? (c : Cursor) : Option Char := c.rest.head?

/-- The character `n` places ahead. -/
def ahead? (c : Cursor) (n : Nat) : Option Char := (c.rest.drop n).head?

def next (c : Cursor) : Cursor :=
  match c.rest with
  | [] => c
  | a :: r =>
    let offset := c.offset + a.utf8Size
    if isBreak a then ⟨r, offset, c.line + 1, 0⟩ else ⟨r, offset, c.line, c.column + 1⟩

def skip (n : Nat) (c : Cursor) : Cursor := n.repeat next c

def skipWhile (p : Char → Bool) (c : Cursor) : Cursor := c.skip (c.rest.takeWhile p).length

/-- Skips what is left of the line, but not its break. -/
def skipLine (c : Cursor) : Cursor := c.skipWhile (!isBreak ·)

/-- The characters at the cursor that `p` accepts, and the place after them. -/
def take (p : Char → Bool) (c : Cursor) : List Char × Cursor := (c.rest.takeWhile p, c.skipWhile p)

/-- `---` or `...` alone at the start of a line. -/
def atIndicator (c : Cursor) (s : List Char) : Bool :=
  c.column == 0 && s.isPrefixOf c.rest && isGap (c.ahead? 3)

def atDocumentStart (c : Cursor) : Bool := c.atIndicator ['-', '-', '-']

def atDocumentEnd (c : Cursor) : Bool := c.atIndicator ['.', '.', '.']

end Cursor

end CypherFragments.Yaml
