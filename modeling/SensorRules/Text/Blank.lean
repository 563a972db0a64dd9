import SensorRules.Text.Range

/-!
White space in rule texts and field values.

* `isBlank`: the characters with the Unicode property `White_Space`;
* `trim`: a text without the blanks at its two ends;
* `words`: the longest stretches without a blank, in order.
-/

namespace SensorRules.Text

/-- The ranges of characters with the property `White_Space`, in ascending order. -/
def blankRanges : List (Nat × Nat) :=
  [(0x9, 0xD), (0x20, 0x20), (0x85, 0x85), (0xA0, 0xA0), (0x1680, 0x1680), (0x2000, 0x200A),
   (0x2028, 0x2029), (0x202F, 0x202F), (0x205F, 0x205F), (0x3000, 0x3000)]

/-- A character with the property `White_Space`. -/
def isBlank (c : Char) : Bool :=
  inRanges blankRanges c

/-- The characters after the blanks at the beginning. -/
def skipBlanks (cs : List Char) : List Char :=
  cs.dropWhile isBlank

/-- The text without the blanks at its two ends. -/
def trim (s : String) : String :=
  String.ofList (skipBlanks (skipBlanks s.toList).reverse).reverse

/-- The stretches between blanks, empty ones included; there is one more of them than of blanks. -/
def splitAtBlanks : List Char → List (List Char)
  | [] => [[]]
  | c :: cs =>
    if isBlank c then [] :: splitAtBlanks cs
    else
      match splitAtBlanks cs with
      | w :: ws => (c :: w) :: ws
      | [] => [[c]]

/-- The words of a text: its longest stretches without a blank, in order. -/
def words (s : String) : List String :=
  ((splitAtBlanks s.toList).filter (!·.isEmpty)).map String.ofList

/-- What `Char.isWhitespace` calls white space is blank. -/
theorem isBlank_of_isWhitespace {c : Char} (h : c.isWhitespace) : isBlank c := by
  have hc : c = ' ' ∨ c = '\t' ∨ c = '\r' ∨ c = '\n' := by
    simpa [Char.isWhitespace, or_assoc] using h
  rcases hc with rfl | rfl | rfl | rfl <;> decide

end SensorRules.Text
