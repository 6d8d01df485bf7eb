/-!
# Binary floating-point numbers

A finite binary float as a sign and an exact dyadic value, and the rounding of a quotient of
naturals to the nearest float of a format.
-/

set_option autoImplicit false

namespace CypherFragments.Decimal

/-- `num / den` to the nearest integer, a half to the even one. -/
def roundHalfEven (num den : Nat) : Nat :=
  let q := num / den
  let r := num % den
  if 2 * r < den then q
  else if den < 2 * r then q + 1
  else q + q % 2

/-- The number of digits of a significand in base two, and the range of the exponent. -/
structure Format where
  precision : Nat
  minExponent : Int
  maxExponent : Int

/-- The 64-bit format. -/
def double : Format := ⟨53, -1074, 971⟩

/-- The 32-bit format. -/
def single : Format := ⟨24, -149, 104⟩

/-- A finite 64-bit float, `± mantissa * 2 ^ exponent`. The mantissa has 53 binary digits, fewer
only if the exponent is the least one, `-1074`. -/
structure Binary64 where
  negative : Bool
  mantissa : Nat
  exponent : Int
  deriving DecidableEq, Repr, Inhabited

/-- `n * 2 ^ e` as a quotient of naturals. -/
def scaleTwo (n : Nat) (e : Int) : Nat × Nat :=
  if 0 ≤ e then (n * Nat.pow 2 e.toNat, 1) else (n, Nat.pow 2 (-e).toNat)

namespace Format

/-- The exponent at which `num / den` has `precision` binary digits before the point, or the least
exponent of the format. -/
def exponentOf (f : Format) (num den : Nat) : Int :=
  let e : Int := (num.log2 : Int) - den.log2 - f.precision + 1
  let (a, b) := scaleTwo den e
  max f.minExponent (if num * b < a * Nat.pow 2 (f.precision - 1) then e - 1 else e)

/-- The mantissa and exponent of the float nearest to `num / den`; `none` beyond the largest. -/
def round (f : Format) (num den : Nat) : Option (Nat × Int) :=
  if num = 0 then some (0, f.minExponent) else
  let e := f.exponentOf num den
  let (a, b) := scaleTwo den e
  let m := roundHalfEven (num * b) a
  let (m, e) := if m = Nat.pow 2 f.precision then (m / 2, e + 1) else (m, e)
  if f.maxExponent < e then none else some (m, e)

end Format

namespace Binary64

def zero (negative : Bool) : Binary64 := ⟨negative, 0, double.minExponent⟩

def isZero (x : Binary64) : Bool := x.mantissa == 0

/-- The absolute value as a quotient of naturals. -/
def ratio (x : Binary64) : Nat × Nat := scaleTwo x.mantissa x.exponent

/-- The float nearest to `± num / den`; `none` beyond the largest. -/
def ofRatio (negative : Bool) (num den : Nat) : Option Binary64 :=
  (double.round num den).map fun (m, e) => ⟨negative, m, e⟩

/-- The nearest float to a 32-bit value nearest to `± num / den`; the second step is exact. -/
def ofRatioSingle (negative : Bool) (num den : Nat) : Option Binary64 := do
  let (m, e) ← single.round num den
  let (a, b) := scaleTwo m e
  ofRatio negative a b

def ofNat (n : Nat) : Option Binary64 := ofRatio false n 1

/-- The rounded product of `x` and `10 ^ k`, where `10 ^ k` is rounded first. -/
def timesPowerOfTen (x : Binary64) (k : Nat) : Option Binary64 := do
  let p ← ofNat (Nat.pow 10 k)
  ofRatio x.negative (x.ratio.1 * p.ratio.1) (x.ratio.2 * p.ratio.2)

/-- The rounded quotient of `x` by `10 ^ k`, where `10 ^ k` is rounded first. -/
def overPowerOfTen (x : Binary64) (k : Nat) : Option Binary64 := do
  let p ← ofNat (Nat.pow 10 k)
  ofRatio x.negative (x.ratio.1 * p.ratio.2) (x.ratio.2 * p.ratio.1)

end Binary64

end CypherFragments.Decimal
