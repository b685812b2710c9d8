/-!
# Ranges of code points

A class of characters as a list of closed ranges of code points.
-/

namespace SchemaEvolution.Text

/-- Whether a code point lies in one of some closed ranges. -/
def inRanges (ranges : List (Nat × Nat)) (n : Nat) : Bool :=
  ranges.any fun (low, high) => low ≤ n && n ≤ high

end SchemaEvolution.Text
