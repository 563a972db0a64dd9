import SensorRules.Number.Whole
import SensorRules.Text.Blank

/-!
Properties of which every character has one value.

A table of such a property lists the values in the order of code points, from zero on. Each stands
there with the number of code points in a row that have it, as in `Lu26`, and alone for a single
one.

* `readRun`: one entry of a table;
* `rangesOf`: the ranges of the code points with certain values.
-/

namespace SensorRules.Text

/-- A value, and how many code points in a row have it. -/
def readRun (entry : String) : String × Nat :=
  let value := entry.toList.takeWhile Char.isAlpha
  let digits := entry.toList.drop value.length
  (String.ofList value, if digits.isEmpty then 1 else Number.ofDigits digits)

/-- The ranges from a code point on of which some runs have one of the values. -/
def rangesOf (values : List String) (first : Nat) : List (String × Nat) → List (Nat × Nat)
  | [] => []
  | (value, count) :: runs =>
    let later := rangesOf values (first + count) runs
    if values.contains value then (first, first + count - 1) :: later else later

end SensorRules.Text
