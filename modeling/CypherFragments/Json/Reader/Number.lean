import CypherFragments.Json.Reader.Basic
import CypherFragments.Decimal.Numeral

/-!
# Reading numbers

`number` reads a number that a 64-bit type can hold, `skipNumber` passes over one of any size. They
differ in the fault of a number that the text breaks off.
-/

set_option autoImplicit false

namespace CypherFragments.Json.Reader

/-- A numeral is read up to a fault; a fault at the end of the text is `atEnd`. -/
def digits (s : List Char) : List Nat × Tail s :=
  match s with
  | [] => ([], .all [])
  | c :: r =>
    if c.isDigit then
      let (ds, t) := digits r
      (Decimal.digitValue c :: ds, (Rest.cons t).toTail)
    else ([], .all (c :: r))

/-- At least one digit. -/
def someDigits (atEnd : Fault) (s : List Char) : Except Fault (List Nat × Rest s) :=
  match s with
  | [] => .error atEnd
  | c :: r =>
    if c.isDigit then
      let (ds, t) := digits r
      .ok (Decimal.digitValue c :: ds, Rest.cons t)
    else .error .malformed

/-- The digits before the point: a zero stands alone. -/
def wholePart (atEnd : Fault) (s : List Char) : Except Fault (List Nat × Rest s) := do
  let (ds, r) ← someDigits atEnd s
  if ds.head? = some 0 ∧ ds.length ≠ 1 then .error .malformed else return (ds, r)

def fractionPart (atEnd : Fault) (s : List Char) : Except Fault (Option (List Nat) × Tail s) :=
  match s with
  | '.' :: r => do
    let (ds, t) ← someDigits atEnd r
    return (some ds, (Rest.cons t.toTail).toTail)
  | s => .ok (none, .all s)

def exponentPart (atEnd : Fault) (s : List Char) : Except Fault (Option Int × Tail s) :=
  match s with
  | [] => .ok (none, .all [])
  | c :: r =>
    if c = 'e' ∨ c = 'E' then
      match r with
      | d :: r' =>
        if d = '+' ∨ d = '-' then do
          let (ds, t) ← someDigits atEnd r'
          let n : Int := Decimal.digitsToNat ds
          return (some (if d = '-' then -n else n), (Rest.cons (Rest.cons t.toTail).toTail).toTail)
        else do
          let (ds, t) ← someDigits atEnd (d :: r')
          return (some (Decimal.digitsToNat ds), (Rest.cons t.toTail).toTail)
      | [] => .error atEnd
    else .ok (none, .all (c :: r))

/-- The parts of a number as written. -/
structure Written where
  negative : Bool
  whole : List Nat
  fraction : Option (List Nat)
  exponent : Option Int

/-- A number without its sign. -/
def unsigned (atEnd : Fault) (negative : Bool) : Reader Written := fun s => do
  let (whole, r) ← wholePart atEnd s
  let (fraction, t) ← fractionPart atEnd r.1
  let (exponent, u) ← exponentPart atEnd t.1
  return (⟨negative, whole, fraction, exponent⟩, r.thenTail (t.trans u))

/-- A number as it is written. -/
def numeral (atEnd : Fault) : Reader Written
  | '-' :: r => do
    let (w, t) ← unsigned atEnd true r
    return (w, Rest.cons t.toTail)
  | s => unsigned atEnd false s

/-- Digits alone are an integer if a 64-bit type holds it, but `-0` is a float; all other numbers
are floats. Beyond the largest float there is no number. -/
def Written.value (w : Written) : Option Number :=
  let n := Decimal.digitsToNat w.whole
  let asFloat := (Decimal.Numeral.scaled
    ⟨w.negative, w.whole, w.fraction.getD [], w.exponent.getD 0⟩).map Number.float
  match w.fraction, w.exponent with
  | none, none =>
    if w.negative then
      if n ≠ 0 ∧ -(n : Int) ≥ Number.least then some (.int (-n)) else asFloat
    else if (n : Int) ≤ Number.greatest then some (.int n)
    else asFloat
  | _, _ => asFloat

def number : Reader Number := fun s => do
  let (w, r) ← numeral .truncated s
  match w.value with
  | some n => return (n, r)
  | none => .error .malformed

/-- Passes over a number of any size. -/
def skipNumber : Reader Unit := map (fun _ => ()) (numeral .malformed)

end CypherFragments.Json.Reader
