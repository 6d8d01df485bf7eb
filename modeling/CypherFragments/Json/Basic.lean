import CypherFragments.Decimal.Shortest

/-!
# Values

The data that records and parameters hold: JSON values whose objects keep the order of their keys
and whose integers stay apart from floats.
-/

set_option autoImplicit false

namespace CypherFragments

/-- A signed or unsigned 64-bit integer, or a 64-bit float. -/
inductive Number
  | int (n : Int)
  | float (x : Decimal.Binary64)
  deriving DecidableEq, Repr, Inhabited

inductive Json
  | null
  | bool (b : Bool)
  | number (n : Number)
  | string (s : String)
  | array (items : List Json)
  | object (members : List (String × Json))
  deriving Repr, Inhabited

namespace Number

def text : Number → List Char
  | int n => if n < 0 then '-' :: Nat.toDigits 10 n.natAbs else Nat.toDigits 10 n.natAbs
  | float x => x.text

/-- The least signed 64-bit integer. -/
def least : Int := -0x8000000000000000

/-- The greatest unsigned 64-bit integer. -/
def greatest : Int := 0xffffffffffffffff

/-- The integer, if it is one of a 64-bit type. -/
def ofInt? (n : Int) : Option Number :=
  if least ≤ n ∧ n ≤ greatest then some (int n) else none

end Number

namespace Json

/-- The word for what kind of value it is. -/
def kind : Json → String
  | null => "null"
  | bool _ => "bool"
  | number _ => "number"
  | string _ => "string"
  | array _ => "array"
  | object _ => "object"

/-- A float; infinities and undefined results are given as `none` and become `null`. -/
def ofFloat (x : Option Decimal.Binary64) : Json :=
  match x with
  | some x => number (.float x)
  | none => null

def ofNat (n : Nat) : Json := number (.int n)

end Json

end CypherFragments
