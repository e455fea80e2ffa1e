/-!
# Ranges of code points

A property of characters is given by the closed ranges of code points that have it. Membership is
decided by looking the code point up in the list of ranges.
-/

set_option autoImplicit false

namespace BundleBuilder.Text

/-- Closed ranges of code points, each written as its first and its last member. -/
abbrev CodePointRanges := List (Nat × Nat)

/-- A code point belongs to a list of ranges if one of them contains it. -/
def CodePointRanges.contains (ranges : CodePointRanges) (codePoint : Nat) : Bool :=
  ranges.any fun range => decide (range.1 ≤ codePoint) && decide (codePoint ≤ range.2)

end BundleBuilder.Text
