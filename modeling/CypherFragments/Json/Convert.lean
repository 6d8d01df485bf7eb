import CypherFragments.Decimal.Numeral
import CypherFragments.Json.Basic
import CypherFragments.Table

/-!
# Values of other types as JSON

How numbers, byte strings and maps of a program become values. A conversion that has no result makes
the field that it is for unreadable.
-/

set_option autoImplicit false

namespace CypherFragments.Json

open Decimal

/-- A 64-bit float given by its text. What is not finite is `null`. -/
def ofFloatText : FloatText → Json
  | .finite x => ofFloat x.exact
  | .infinite => null
  | .notANumber => null

/-- A 32-bit float given by its text, widened. -/
def ofSingleText : FloatText → Json
  | .finite x => ofFloat x.exactSingle
  | .infinite => null
  | .notANumber => null

/-- An integer of any size, if a 64-bit type holds it. -/
def ofInt? (n : Int) : Option Json := (Number.ofInt? n).map number

def ofBytes (bytes : List UInt8) : Json := array (bytes.map fun b => ofNat b.toNat)

/-- A map with integer keys: the keys become their decimal texts. -/
def ofIntMap (l : List (Int × Json)) : Json :=
  object (Table.ofList (l.map fun (k, v) => (String.ofList (Number.int k).text, v))).entries

/-- A map whose keys are lists: no key is a text, so only the empty map can be converted. -/
def ofListMap? (l : List (List Int × Json)) : Option Json :=
  if l.isEmpty then some (object []) else none

end CypherFragments.Json
