/-!
# Ranges of characters

Character properties are given as ascending lists of ranges of code points.

Main definition: `Text.inRanges`.
-/

namespace StackCode.Text

/-- Whether a code point lies in one of the ranges, ends included. -/
def inRanges (ranges : List (Nat × Nat)) (code : Nat) : Bool :=
  ranges.any fun (first, last) => decide (first ≤ code) && decide (code ≤ last)

end StackCode.Text
