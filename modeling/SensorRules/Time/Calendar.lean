/-!
Days of the Gregorian calendar, extended to all years, and their numbers counted from 1 January
1970.

* `Date`: year, month and day of month, with `Date.IsValid`;
* `Date.toDay` and `Date.ofDay`: the number of a date and the date with a number;
* `isWeekend`: the days that are a Saturday or a Sunday.
-/

namespace SensorRules.Time

/-- A year with a 29th of February. -/
def isLeapYear (year : Int) : Bool :=
  (year % 4 == 0 && year % 100 != 0) || year % 400 == 0

/-- The lengths of the twelve months. -/
def monthLengths (leap : Bool) : List Nat :=
  [31, if leap then 29 else 28, 31, 30, 31, 30, 31, 31, 30, 31, 30, 31]

/-- The number of the first of January. The leap days before it are counted by the multiples of 4,
100 and 400 among the years gone by. -/
def yearStart (year : Int) : Int :=
  let past := year - 1
  365 * past + past / 4 - past / 100 + past / 400 - 719162

/-- The year in which the day lies. A year has `146097 / 400` days on average, and the year
estimated by that is at most one off. -/
def yearOfDay (day : Int) : Int :=
  let guess := (day + 719162) * 400 / 146097 + 1
  if day < yearStart guess then guess - 1
  else if yearStart (guess + 1) ≤ day then guess + 1
  else guess

/-- A date of the calendar. -/
structure Date where
  year : Int
  /-- From 1 to 12. -/
  month : Nat
  /-- From 1 on. -/
  day : Nat
deriving DecidableEq, Repr

namespace Date

/-- The month exists and has the day. -/
def IsValid (d : Date) : Prop :=
  1 ≤ d.month ∧ d.month ≤ 12 ∧ 1 ≤ d.day ∧
    d.day ≤ (monthLengths (isLeapYear d.year)).getD (d.month - 1) 0

instance (d : Date) : Decidable d.IsValid :=
  inferInstanceAs (Decidable (_ ∧ _))

/-- The number of a date; 1 January 1970 has the number 0. -/
def toDay (d : Date) : Int :=
  let before : Nat := ((monthLengths (isLeapYear d.year)).take (d.month - 1)).foldr (· + ·) 0
  yearStart d.year + before + (d.day - 1 : Nat)

/-- The month and day of month that lie so many days into months of the given lengths, the first of
which is `month`. -/
def splitMonths (month : Nat) : List Nat → Nat → Nat × Nat
  | [], rest => (month, rest + 1)
  | length :: lengths, rest =>
    if rest < length then (month, rest + 1) else splitMonths (month + 1) lengths (rest - length)

/-- The date with a number. -/
def ofDay (day : Int) : Date :=
  let year := yearOfDay day
  let (month, dayOfMonth) :=
    splitMonths 1 (monthLengths (isLeapYear year)) (day - yearStart year).toNat
  ⟨year, month, dayOfMonth⟩

end Date

/-- A Saturday or a Sunday; day 0 is a Thursday. -/
def isWeekend (day : Int) : Bool :=
  5 ≤ (day + 3) % 7

end SensorRules.Time
