import CypherFragments.Text.Alphabetic
import CypherFragments.Text.Numeric

/-!
# Names in statements

A placeholder `$name` reaches over the longest run of name characters, a property key is written
plainly when it is a word, and configured names are ASCII identifiers.
-/

set_option autoImplicit false

namespace CypherFragments.Text

/-- Letters, digits and other numbers of any script. -/
def isAlphanumeric (c : Char) : Bool := isAlphabetic c || isNumeric c

/-- The characters that a placeholder's name may hold. -/
def isNameChar (c : Char) : Bool := isAlphanumeric c || c == '_'

/-- Starts with a letter or underscore and holds name characters only. -/
def isWord (s : List Char) : Bool :=
  match s with
  | [] => false
  | c :: _ => (isAlphabetic c || c == '_') && s.all isNameChar

/-- ASCII letters, digits and the underscore. -/
def isAsciiNameChar (c : Char) : Bool := c.isAlphanum || c == '_'

/-- `[A-Za-z_][A-Za-z0-9_]*`, over the whole text. -/
def isIdentifier (s : List Char) : Bool :=
  match s with
  | [] => false
  | c :: r => (c.isAlpha || c == '_') && r.all isAsciiNameChar

/-- White space in the sense of the Unicode property `White_Space`. -/
def isSpace (c : Char) : Bool :=
  let n := c.toNat
  (9 ≤ n && n ≤ 13) || n == 0x20 || n == 0x85 || n == 0xa0 || n == 0x1680
    || (0x2000 ≤ n && n ≤ 0x200a) || n == 0x2028 || n == 0x2029 || n == 0x202f || n == 0x205f
    || n == 0x3000

/-- Nothing but white space. -/
def isBlank (s : List Char) : Bool := s.all isSpace

end CypherFragments.Text
