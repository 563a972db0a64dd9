/-!
Comparison of texts that leaves the case of ASCII letters aside.

* `lowercase`: the text with the ASCII letters in lower case, every other character kept;
* `sameLetters`: equality of texts up to the case of ASCII letters.
-/

namespace SensorRules.Text

/-- The text with its ASCII letters in lower case. -/
def lowercase (s : String) : String :=
  String.ofList (s.toList.map Char.toLower)

/-- The two texts differ at most in the case of ASCII letters. -/
def sameLetters (s t : String) : Bool :=
  lowercase s == lowercase t

end SensorRules.Text
