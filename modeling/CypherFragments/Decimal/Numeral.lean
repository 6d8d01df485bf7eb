import CypherFragments.Decimal.Binary64

/-!
# Decimal numerals

A `Numeral` is the parts of a written number. `Numeral.exact` is the float nearest to it.
`Numeral.scaled` is the float that a reader with a 64-bit significand and one scaling step arrives
at: the leading digits that fit into 64 bits, rounded, then multiplied or divided by a rounded power
of ten. The two differ in the last place at most for long numerals.
-/

set_option autoImplicit false

namespace CypherFragments.Decimal

/-- `whole.fraction e exponent`, the digits most significant first. -/
structure Numeral where
  negative : Bool
  whole : List Nat
  fraction : List Nat
  exponent : Int
  deriving DecidableEq, Repr

def digitsToNat (ds : List Nat) : Nat := ds.foldl (fun n d => 10 * n + d) 0

/-- The value of a decimal digit. -/
def digitValue (c : Char) : Nat := c.toNat - '0'.toNat

/-- The digits at the start of `s`, and the rest. -/
def takeDigits (s : List Char) : List Nat × List Char :=
  ((s.takeWhile Char.isDigit).map digitValue, s.dropWhile Char.isDigit)

/-- `± num / den * 10 ^ e` rounded once, by `round`. Exponents far beyond the format are not
expanded. -/
def roundScaled (round : Nat → Nat → Option Binary64) (negative : Bool) (n : Nat) (e : Int) :
    Option Binary64 :=
  if n = 0 then some (Binary64.zero negative)
  else if 400 < e then none
  else if e + Nat.log2 n < -1200 then some (Binary64.zero negative)
  else if 0 ≤ e then round (n * Nat.pow 10 e.toNat) 1
  else round n (Nat.pow 10 (-e).toNat)

namespace Numeral

/-- The nearest 64-bit float; `none` beyond the largest. -/
def exact (x : Numeral) : Option Binary64 :=
  roundScaled (Binary64.ofRatio x.negative) x.negative (digitsToNat (x.whole ++ x.fraction))
    (x.exponent - x.fraction.length)

/-- The nearest 32-bit float; `none` beyond the largest. -/
def exactSingle (x : Numeral) : Option Binary64 :=
  roundScaled (Binary64.ofRatioSingle x.negative) x.negative
    (digitsToNat (x.whole ++ x.fraction)) (x.exponent - x.fraction.length)

/-! ## One scaling step -/

/-- Appends digits to `n` as long as it fits into 64 bits, and returns the digits left over. -/
def accumulate (n : Nat) : List Nat → Nat × List Nat
  | [] => (n, [])
  | d :: ds => if 10 * n + d < Nat.pow 2 64 then accumulate (10 * n + d) ds else (n, d :: ds)

/-- The largest power of ten that is a 64-bit float. -/
def largestPower : Nat := 308

/-- `x` divided `n` times by the largest power of ten; zero stays zero. -/
def divideRepeatedly : Nat → Binary64 → Option Binary64
  | 0, x => some x
  | n + 1, x =>
    if x.isZero then some x else (x.overPowerOfTen largestPower).bind (divideRepeatedly n)

/-- `x / 10 ^ k`, by as many of the largest power as leave a remainder above zero, then by the
remainder. -/
def scaleDown (x : Binary64) (k : Nat) : Option Binary64 := do
  let n := (k - 1) / largestPower
  let y ← divideRepeatedly n x
  y.overPowerOfTen (k - n * largestPower)

/-- `x * 10 ^ e`; `none` beyond the largest float. -/
def scale (x : Binary64) (e : Int) : Option Binary64 :=
  if e < 0 then scaleDown x (-e).toNat
  else if e ≤ largestPower then x.timesPowerOfTen e.toNat
  else if x.isZero then some x
  else none

/-- The float of the leading 64 bits and one scaling; `none` beyond the largest. -/
def scaled (x : Numeral) : Option Binary64 := do
  let (n, dropped) := accumulate 0 x.whole
  let (n, unread) := accumulate n x.fraction
  let e := x.exponent + dropped.length - (x.fraction.length - unread.length)
  let y ← scale (← Binary64.ofNat n) e
  return { y with negative := x.negative }

end Numeral

/-! ## Numerals of programs -/

/-- A float given by its text: a numeral, an infinity or no number at all. -/
inductive FloatText
  | finite (x : Numeral)
  | infinite
  | notANumber
  deriving DecidableEq, Repr

/-- An optional sign and the rest. -/
def takeSign : List Char → Bool × List Char
  | '-' :: r => (true, r)
  | '+' :: r => (false, r)
  | r => (false, r)

/-- An integer: an optional sign and digits, over the whole text. -/
def signedDigits? (s : List Char) : Option Int :=
  let (negative, r) := takeSign s
  let (ds, r) := takeDigits r
  if ds.isEmpty ∨ r ≠ [] then none
  else if negative then some (-(digitsToNat ds : Int)) else some (digitsToNat ds)

/-- The letter `e` and an integer; nothing is the exponent `0`. -/
def exponentPart? : List Char → Option Int
  | [] => some 0
  | c :: r => if c = 'e' ∨ c = 'E' then signedDigits? r else none

/-- A sign, digits with an optional point, an optional exponent; or `inf`, `infinity`, `nan` in any
case. -/
def FloatText.read? (s : String) : Option FloatText :=
  let (negative, r) := takeSign s.toList
  let word := String.ofList (r.map Char.toLower)
  if word = "inf" ∨ word = "infinity" then some .infinite
  else if word = "nan" then some .notANumber
  else
    let (whole, r) := takeDigits r
    let (fraction, r) :=
      match r with
      | '.' :: r => takeDigits r
      | r => ([], r)
    if whole.isEmpty ∧ fraction.isEmpty then none
    else (exponentPart? r).map fun e => .finite ⟨negative, whole, fraction, e⟩

end CypherFragments.Decimal
