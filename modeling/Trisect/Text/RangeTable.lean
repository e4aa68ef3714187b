/-!
# Tables of ranges

A property of characters is given as the ranges of code points that have it, in ascending order.
`Trisect.Text.inRanges` looks a code point up; it stops at the first range that starts beyond it.
-/

namespace Trisect.Text

/-- Ranges of code points with both ends included, in ascending order. -/
abbrev RangeTable := List (Nat × Nat)

/-- Whether a code point lies in one of the ranges. -/
def inRanges (n : Nat) : RangeTable → Bool
  | [] => false
  | (lo, hi) :: rest => if n < lo then false else n ≤ hi || inRanges n rest

end Trisect.Text
