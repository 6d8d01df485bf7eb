/-!
# Ranges of code points

Unicode properties are kept as arrays of closed ranges.
-/

set_option autoImplicit false

namespace CypherFragments.Text

/-- `n` lies in one of the closed ranges of `table`. -/
def inRanges (table : Array (Nat × Nat)) (n : Nat) : Bool :=
  table.any fun r => r.1 ≤ n && n ≤ r.2

end CypherFragments.Text
