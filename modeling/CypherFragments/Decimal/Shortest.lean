import CypherFragments.Decimal.Binary64

/-!
# Shortest decimal text of a float

The digits written are the fewest that read back as the same float, and of those the nearest to it;
of two equally near the even one. Numbers whose first digit stands for `10 ^ -5` up to `10 ^ 15` are
written positionally, all others with an exponent.
-/

set_option autoImplicit false

namespace CypherFragments.Decimal

/-- `digits * 10 ^ exponent`. -/
structure Digits where
  digits : Nat
  exponent : Int
  deriving DecidableEq, Repr

/-- The number of decimal digits. -/
def digitCount (n : Nat) : Nat := (Nat.toDigits 10 n).length

/-- `num / den * 10 ^ (-k)` as a quotient of naturals. -/
def scaleTen (num den : Nat) (k : Int) : Nat × Nat :=
  if 0 ≤ k then (num, den * Nat.pow 10 k.toNat) else (num * Nat.pow 10 (-k).toNat, den)

/-- The exponent of the first decimal digit of `num / den`. -/
def leadingExponent (num den : Nat) : Int :=
  let e : Int := (digitCount num : Int) - digitCount den
  let (a, b) := scaleTen num den e
  if a < b then e - 1 else e

/-- The reals that round to one float, in units of a quarter of its last place: from `low` to
`high`, the ends included iff `closed`. -/
structure Interval where
  low : Nat
  high : Nat
  closed : Bool

namespace Binary64

/-- The interval of `x`, in quarters of `2 ^ x.exponent`. Below a power of two the next float is
only half as far. -/
def interval (x : Binary64) : Interval where
  low := 4 * x.mantissa -
    (if x.mantissa = Nat.pow 2 52 ∧ x.exponent ≠ double.minExponent then 1 else 2)
  high := 4 * x.mantissa + 2
  closed := x.mantissa % 2 == 0

/-- `d * 10 ^ k` rounds to `x`. -/
def readsBack (x : Binary64) (d : Nat) (k : Int) : Bool :=
  let i := x.interval
  -- compare d * 10 ^ k with i.low * 2 ^ (e - 2) and i.high * 2 ^ (e - 2)
  let (unit, unitDen) := scaleTwo 1 (x.exponent - 2)
  let (one, ten) := scaleTen 1 1 k
  let here := d * ten * unitDen
  let low := i.low * unit * one
  let high := i.high * unit * one
  if i.closed then low ≤ here && here ≤ high else low < here && here < high

/-- The `n`-digit decimal nearest to `x`, if it reads back. -/
def withDigits (x : Binary64) (n : Nat) : Option Digits :=
  let (num, den) := x.ratio
  let k := leadingExponent num den - n + 1
  let (a, b) := scaleTen num den k
  let nearest := roundHalfEven a b
  let other := if nearest * b ≤ a then nearest + 1 else nearest - 1
  if x.readsBack nearest k then some ⟨nearest, k⟩
  else if x.readsBack other k then some ⟨other, k⟩
  else none

/-- The shortest decimal that reads back as `x`, for `x` other than zero: seventeen digits are
always enough. -/
def shortest (x : Binary64) : Digits :=
  ((List.range 17).findSome? fun i => x.withDigits (i + 1)).getD ⟨x.mantissa, 0⟩

end Binary64

/-- Drops the zeros at the end of `n`, and counts them. -/
def dropZeros : Nat → Nat → Nat × Nat
  | 0, n => (n, 0)
  | fuel + 1, n =>
    if n % 10 = 0 ∧ n ≠ 0 then let (m, k) := dropZeros fuel (n / 10); (m, k + 1) else (n, 0)

/-- The digit `0` repeated. -/
def zeros (n : Nat) : List Char := List.replicate n '0'

/-- `ds * 10 ^ (e + 1 - ds.length)`: `e` is the exponent of the first digit. -/
def layout (ds : List Char) (e : Int) : List Char :=
  if -5 ≤ e ∧ e ≤ 15 then
    if e < 0 then ['0', '.'] ++ zeros (-e - 1).toNat ++ ds
    else
      let whole := e.toNat + 1
      if ds.length ≤ whole then ds ++ zeros (whole - ds.length) ++ ['.', '0']
      else ds.take whole ++ ['.'] ++ ds.drop whole
  else
    let fraction := if ds.length = 1 then [] else '.' :: ds.drop 1
    let sign := if e < 0 then ['-'] else ['+']
    ds.take 1 ++ fraction ++ ['e'] ++ sign ++ Nat.toDigits 10 e.natAbs

namespace Binary64

/-- The text of `x` without its sign. -/
def magnitude (x : Binary64) : List Char :=
  if x.isZero then ['0', '.', '0']
  else
    let s := x.shortest
    let (d, k) := dropZeros 17 s.digits
    let ds := Nat.toDigits 10 d
    layout ds (s.exponent + k + ds.length - 1)

def text (x : Binary64) : List Char :=
  if x.negative then '-' :: x.magnitude else x.magnitude

end Binary64

end CypherFragments.Decimal
