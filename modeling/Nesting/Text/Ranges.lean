/-!
# Ranges of code points

A property of characters that a standard lists by code point is kept as a list of closed
ranges, and a character has the property when its code point lies in one of them.
-/

namespace Nesting

/-- Whether a number lies in one of the closed ranges. -/
def inRanges (ranges : List (Nat × Nat)) (n : Nat) : Bool :=
  ranges.any fun r => r.1 ≤ n && n ≤ r.2

end Nesting
