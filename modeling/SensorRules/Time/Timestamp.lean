import SensorRules.Number.Whole
import SensorRules.Text.Blank
import SensorRules.Text.Letter
import SensorRules.Time.Instant

/-!
Instants as text: date, time of day and offset from UTC, such as `2026-10-14T09:00:00.500Z`.

* `Instant.toText`: the written form, in UTC, with three, six or nine digits of a second or none;
* `Instant.ofText?`: the reader, which takes what `Instant.toText` writes and more: blanks between
  the parts, numbers without leading zeros, any offset in hours and minutes.
-/

namespace SensorRules.Time

open Number (padded toDigits)
open Text (skipBlanks)

/-! ### Writing -/

/-- Four digits for the years 0 to 9999; other years have a sign and at least four digits. -/
def yearText (year : Int) : List Char :=
  if year < 0 then '-' :: padded 4 year.natAbs
  else if 9999 < year then '+' :: padded 4 year.natAbs
  else padded 4 year.natAbs

/-- The digits of a second after the point: as few of three, six and nine as lose nothing, and no
point if there are none. -/
def fractionText (nano : Nat) : List Char :=
  if nano = 0 then []
  else if nano % 1000000 = 0 then '.' :: padded 3 (nano / 1000000)
  else if nano % 1000 = 0 then '.' :: padded 6 (nano / 1000)
  else '.' :: padded 9 nano

/-- The characters of an instant in UTC; a leap second is written as second 60. -/
def Instant.toChars (t : Instant) : List Char :=
  let date := Date.ofDay (t.second / secondsPerDay)
  let time := (t.second % secondsPerDay).toNat
  let leap := if nanosPerSecond ≤ t.nano then 1 else 0
  yearText date.year ++ '-' :: padded 2 date.month ++ '-' :: padded 2 date.day ++
    'T' :: padded 2 (time / 3600) ++ ':' :: padded 2 (time / 60 % 60) ++
    ':' :: padded 2 (time % 60 + leap) ++ fractionText (t.nano % nanosPerSecond) ++ ['Z']

/-- The instant in UTC. -/
def Instant.toText (t : Instant) : String :=
  String.ofList t.toChars

/-! ### Reading -/

/-- A number of at least one and at most `width` digits. -/
def digitsUpTo? (width : Nat) (cs : List Char) : Option (Nat × List Char) :=
  match (cs.take width).takeWhile Char.isDigit with
  | [] => none
  | digits => some (Number.ofDigits digits, cs.drop digits.length)

/-- A year: after a sign any number of digits, else at most four. -/
def year? (cs : List Char) : Option (Int × List Char) :=
  match skipBlanks cs with
  | '-' :: cs => (digitsUpTo? cs.length cs).map fun (n, rest) => (-(n : Int), rest)
  | '+' :: cs => (digitsUpTo? cs.length cs).map fun (n, rest) => ((n : Int), rest)
  | cs => (digitsUpTo? 4 cs).map fun (n, rest) => ((n : Int), rest)

/-- A number of one or two digits, with blanks before it. -/
def twoDigits? (cs : List Char) : Option (Nat × List Char) :=
  digitsUpTo? 2 (skipBlanks cs)

/-- A separator, with blanks before it. -/
def separator? (c : Char) (cs : List Char) : Option (List Char) :=
  match skipBlanks cs with
  | d :: rest => if d = c then some rest else none
  | [] => none

/-- The mark between date and time: a T in either case, or a blank. -/
def dateEnd? : List Char → Option (List Char)
  | c :: rest => if c = 'T' ∨ c = 't' ∨ c = ' ' then some rest else none
  | [] => none

/-- The nanoseconds after a point, none if there is no point; digits past the ninth are dropped. -/
def nanos? : List Char → Option (Nat × List Char)
  | '.' :: cs =>
    (digitsUpTo? 9 cs).map fun (n, rest) =>
      (n * Nat.pow 10 (9 - (cs.length - rest.length)), rest.dropWhile Char.isDigit)
  | cs => some (0, cs)

/-- The sign of an offset. -/
def offsetSign? : List Char → Option (Int × List Char)
  | '+' :: cs => some (1, cs)
  | '-' :: cs => some (-1, cs)
  | '\u2212' :: cs => some (-1, cs)
  | _ => none

/-- Exactly two digits. -/
def digitPair? : List Char → Option (Nat × List Char)
  | a :: b :: rest =>
    if a.isDigit ∧ b.isDigit then some (Number.ofDigits [a, b], rest) else none
  | _ => none

/-- An offset from UTC in seconds: `Z` or `UTC` in either case, or a sign, two digits of hours and
two of minutes with colons and blanks between them. -/
def offset? (cs : List Char) : Option (Int × List Char) :=
  match cs with
  | 'Z' :: rest => some (0, rest)
  | 'z' :: rest => some (0, rest)
  | _ =>
    if Text.sameLetters (String.ofList (cs.take 3)) "UTC" then some (0, cs.drop 3)
    else do
      let (sign, rest) ← offsetSign? cs
      let (hours, rest) ← digitPair? rest
      let (minutes, rest) ← digitPair? (rest.dropWhile fun c => c == ':' || Text.isBlank c)
      if minutes < 60 ∧ hours < 24 then some (sign * (hours * 3600 + minutes * 60 : Nat), rest)
      else none

/-- Reads an instant with nothing but blanks around it. -/
def Instant.ofChars? (cs : List Char) : Option Instant := do
  let (year, cs) ← year? cs
  let cs ← separator? '-' cs
  let (month, cs) ← twoDigits? cs
  let cs ← separator? '-' cs
  let (day, cs) ← twoDigits? cs
  let cs ← dateEnd? cs
  let (hour, cs) ← twoDigits? cs
  let cs ← separator? ':' cs
  let (minute, cs) ← twoDigits? cs
  let cs ← separator? ':' cs
  let (second, cs) ← twoDigits? cs
  let (nano, cs) ← nanos? cs
  let (offset, cs) ← offset? (skipBlanks cs)
  let date : Date := ⟨year, month, day⟩
  if skipBlanks cs = [] ∧ firstYear ≤ year ∧ year ≤ lastYear ∧ date.IsValid ∧ hour < 24 ∧
      minute < 60 ∧ second ≤ 60 then
    let time := hour * 3600 + minute * 60 + min second 59
    let leap := if second = 60 then nanosPerSecond else 0
    Instant.ofParts? (date.toDay * secondsPerDay + time - offset) (nano + leap)
  else none

/-- The instant that a text writes. -/
def Instant.ofText? (s : String) : Option Instant :=
  Instant.ofChars? s.toList

end SensorRules.Time
