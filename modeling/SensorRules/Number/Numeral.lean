import SensorRules.Number.Binary64
import SensorRules.Number.Whole
import SensorRules.Text.Digit

/-!
The first numeral in a text, such as `2.9` in `2.9V` or `-3` in `t=-3C`.

A numeral is an optional minus sign, decimal digits of any script and, if a point and a further
digit follow, the point and the digits after it. It denotes a number when all its digits are those
of ASCII.

* `Numeral`: the parts of a numeral;
* `Numeral.at?`: the longest numeral at the beginning of a text;
* `Numeral.first?`: the numeral at the leftmost place where one begins;
* `firstNumber`: the number that the first numeral denotes.
-/

namespace SensorRules.Number

/-- A numeral as written: sign, digits before the point and digits after it. -/
structure Numeral where
  negative : Bool
  whole : List Char
  fraction : List Char
deriving DecidableEq, Repr

namespace Numeral

/-- The longest run of decimal digits at the beginning. -/
def leadingDigits (cs : List Char) : List Char :=
  cs.takeWhile Text.isDecimalDigit

/-- The digits after a point at the beginning; empty unless a digit follows the point. -/
def fractionPart : List Char → List Char
  | '.' :: cs => leadingDigits cs
  | _ => []

/-- The numeral without a sign at the beginning of a text. -/
def unsignedAt? (negative : Bool) (cs : List Char) : Option Numeral :=
  match leadingDigits cs with
  | [] => none
  | whole => some ⟨negative, whole, fractionPart (cs.drop whole.length)⟩

/-- The longest numeral at the beginning of a text. -/
def at? : List Char → Option Numeral
  | '-' :: cs => unsignedAt? true cs
  | cs => unsignedAt? false cs

/-- The numeral at the leftmost place where one begins. -/
def first? : List Char → Option Numeral
  | [] => none
  | c :: cs => (at? (c :: cs)).or (first? cs)

/-- The double nearest to the numeral, if its digits are those of ASCII. -/
def value? (n : Numeral) : Option Binary64 :=
  (digits? (n.whole ++ n.fraction)).map fun digits =>
    Binary64.ofDecimal n.negative digits n.fraction.length

end Numeral

/-- The number that the first numeral in the text denotes. -/
def firstNumber (s : String) : Option Binary64 :=
  (Numeral.first? s.toList).bind Numeral.value?

end SensorRules.Number
