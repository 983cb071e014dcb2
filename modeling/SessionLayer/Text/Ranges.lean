/-!
# Sets of characters by ranges

A property of characters that a standard fixes by a table is a list of closed ranges of code points
in ascending order.
-/

set_option autoImplicit false

namespace SessionLayer.Text

/-- Closed ranges of code points, in ascending order. -/
abbrev Ranges := List (Nat × Nat)

/-- Whether the code point of `c` lies in one of the ranges. -/
def Ranges.covers (table : Ranges) (c : Char) : Bool :=
  table.any fun (first, last) => decide (first ≤ c.toNat ∧ c.toNat ≤ last)

end SessionLayer.Text
