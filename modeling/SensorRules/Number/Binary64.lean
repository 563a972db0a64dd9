/-!
The double-precision numbers that decimal numerals denote: no NaN is among them.

A number is a sign and a *code*, the exponent and fraction fields of the 64-bit format read as one
natural number. Codes grow with the magnitude: the code `q < 2 ^ 53` stands for `q` units of
`2 ^ -1074`, and the code `e * 2 ^ 52 + q` with `2 ^ 52 ≤ q < 2 ^ 53` for `q * 2 ^ e` units. So
numbers are compared through their codes, and a ratio is rounded by counting units.

* `Binary64`: sign and code, with `Binary64.bits` the 64-bit pattern;
* `Binary64.nearestCode`: the code nearest to a ratio of natural numbers, a tie going to the even
  code;
* `Binary64.ofDecimal`: the number nearest to `± digits / 10 ^ places`;
* `Binary64.rank`: an integer whose order is the order of the numbers, the two zeros being equal.
-/

namespace SensorRules.Number

/-- A double-precision number other than NaN: its sign, and its exponent and fraction fields as one
number. -/
structure Binary64 where
  negative : Bool
  code : Nat
deriving DecidableEq, Repr

namespace Binary64

/-- The code of infinity, the least one that is not of a finite number. -/
def infinityCode : Nat := 2047 * Nat.pow 2 52

/-- The whole number nearest to `num / den`, a tie going to the even one. -/
def roundHalfEven (num den : Nat) : Nat :=
  let quotient := num / den
  let twice := 2 * (num % den)
  if twice < den then quotient
  else if den < twice then quotient + 1
  else quotient + quotient % 2

/-- The code of the number nearest to `num / den`: the ratio is counted in units of `2 ^ -1074`, and
of the count the leading 53 binary digits are kept. -/
def nearestCode (num den : Nat) : Nat :=
  let units := num * Nat.pow 2 1074
  let exponent := (units / den).log2 - 52
  min infinityCode (exponent * Nat.pow 2 52 + roundHalfEven units (den * Nat.pow 2 exponent))

/-- The number nearest to `digits / 10 ^ places`, with the given sign. -/
def ofDecimal (negative : Bool) (digits places : Nat) : Binary64 :=
  ⟨negative, nearestCode digits (Nat.pow 10 places)⟩

/-- The 64 bits of the number. -/
def bits (x : Binary64) : Nat :=
  (if x.negative then Nat.pow 2 63 else 0) + x.code

/-- The order of the numbers, read off their codes. -/
def rank (x : Binary64) : Int :=
  if x.negative then -(x.code : Int) else x.code

end Binary64

end SensorRules.Number
