/-!
Whole numbers as text: threshold keys, capability arguments, settings and times of day have them.

* `hexDigit?`: the value of one digit in base sixteen;
* `digits?`: a non-empty run of ASCII digits, read in base ten;
* `unsigned?`: an optional plus sign and digits, for a number below a given bound;
* `signed?`: an optional sign and digits, for a number in a range of `2 * bound` numbers around
  zero;
* `word64`, `word32`: the bounds of the numbers of 64 and 32 bits.
-/

namespace SensorRules.Number

/-- There are this many numbers of 64 bits. -/
def word64 : Nat := Nat.pow 2 64

/-- There are this many numbers of 32 bits. -/
def word32 : Nat := Nat.pow 2 32

/-- The value of an ASCII digit. -/
def digitValue (c : Char) : Nat :=
  c.toNat - '0'.toNat

/-- The value of a hexadecimal digit. -/
def hexDigit? (c : Char) : Option Nat :=
  if c.isDigit then some (c.toNat - '0'.toNat)
  else if 'a' ≤ c ∧ c ≤ 'f' then some (c.toNat - 'a'.toNat + 10)
  else if 'A' ≤ c ∧ c ≤ 'F' then some (c.toNat - 'A'.toNat + 10)
  else none

/-- The number that a list of digits denotes in base ten. -/
def ofDigits (cs : List Char) : Nat :=
  cs.foldl (fun n c => 10 * n + digitValue c) 0

/-- Reads a non-empty run of ASCII digits and nothing else. -/
def digits? (cs : List Char) : Option Nat :=
  if cs ≠ [] ∧ cs.all Char.isDigit then some (ofDigits cs) else none

/-- Reads digits with an optional plus sign before them, if the number is below `bound`. -/
def unsigned? (bound : Nat) (s : String) : Option Nat :=
  let body := match s.toList with
    | '+' :: cs => cs
    | cs => cs
  (digits? body).filter (· < bound)

/-- Reads digits with an optional sign before them, if the number is at least `-bound` and less than
`bound`. -/
def signed? (bound : Nat) (s : String) : Option Int :=
  let value := match s.toList with
    | '-' :: cs => (digits? cs).map fun n => -(n : Int)
    | '+' :: cs => (digits? cs).map Int.ofNat
    | cs => (digits? cs).map Int.ofNat
  value.filter fun n => -(bound : Int) ≤ n && n < bound

/-- The decimal digits of a number, without leading zeros. -/
def toDigits (n : Nat) : List Char :=
  Nat.toDigits 10 n

/-- A number in decimal, filled up with zeros on the left to at least `width` digits. -/
def padded (width n : Nat) : List Char :=
  let ds := toDigits n
  List.replicate (width - ds.length) '0' ++ ds

end SensorRules.Number
