/-!
Classes of characters as lists of ranges of code points.

* `inRanges`: membership.
-/

namespace SensorRules.Text

/-- The code point of the character lies in one of the ranges, their ends included. -/
def inRanges (ranges : List (Nat × Nat)) (c : Char) : Bool :=
  ranges.any fun r => r.1 ≤ c.toNat && c.toNat ≤ r.2

end SensorRules.Text
