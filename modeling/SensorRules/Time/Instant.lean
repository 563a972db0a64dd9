import SensorRules.Time.Calendar

/-!
Instants, and the time that passes between them.

* `Instant`: seconds since the beginning of 1970 in UTC and nanoseconds, within the years
  `firstYear` to `lastYear`. In a leap second the nanoseconds go on past the end of the second
  before it;
* `Instant.ofParts?`: the instant with given parts, if they make one;
* `Instant.nanosSince` and `Instant.secondsSince`: the time from one instant to another, exact and
  in whole seconds.
-/

namespace SensorRules.Time

/-- The nanoseconds of a second. -/
def nanosPerSecond : Nat := 1000000000

/-- The seconds of a day. -/
def secondsPerDay : Nat := 86400

/-- The first year of the calendar in use. -/
def firstYear : Int := -262143

/-- The last year of the calendar in use. -/
def lastYear : Int := 262142

/-- Seconds and nanoseconds that make an instant: the seconds lie within the calendar, and only the
last second of a minute may be lengthened by a leap second. -/
def IsInstant (second : Int) (nano : Nat) : Prop :=
  (yearStart firstYear * secondsPerDay ≤ second ∧
      second < yearStart (lastYear + 1) * secondsPerDay) ∧
    (nano < nanosPerSecond ∨ (nano < 2 * nanosPerSecond ∧ second % 60 = 59))

instance (second : Int) (nano : Nat) : Decidable (IsInstant second nano) :=
  inferInstanceAs (Decidable ((_ ∧ _) ∧ (_ ∨ _)))

/-- An instant: seconds since the beginning of 1970 in UTC, leap seconds not counted, and
nanoseconds. -/
structure Instant where
  second : Int
  nano : Nat
  valid : IsInstant second nano
deriving DecidableEq

namespace Instant

/-- The instant with these seconds and nanoseconds, if there is one. -/
def ofParts? (second : Int) (nano : Nat) : Option Instant :=
  if h : IsInstant second nano then some ⟨second, nano, h⟩ else none

/-- The beginning of 1970. -/
def epoch : Instant :=
  ⟨0, 0, by decide⟩

instance : Inhabited Instant := ⟨epoch⟩

/-- The instant lies in a leap second. -/
def InLeapSecond (t : Instant) : Prop :=
  nanosPerSecond ≤ t.nano

/-- A leap second that lies between two times of day counts once. -/
def leapAdjustment (later earlier : Instant) : Int :=
  let a := later.second % secondsPerDay
  let b := earlier.second % secondsPerDay
  if b < a ∧ nanosPerSecond ≤ earlier.nano then 1
  else if a < b ∧ nanosPerSecond ≤ later.nano then -1
  else 0

/-- The nanoseconds from the earlier instant to the later; negative in the other order. -/
def nanosSince (later earlier : Instant) : Int :=
  (later.second - earlier.second + leapAdjustment later earlier) * nanosPerSecond +
    ((later.nano : Int) - earlier.nano)

/-- The whole seconds from the earlier instant to the later, rounded toward zero. -/
def secondsSince (later earlier : Instant) : Int :=
  (later.nanosSince earlier).tdiv nanosPerSecond

/-- The whole seconds for which something has lasted: none if it begins later. -/
def elapsedSince (now since : Instant) : Nat :=
  (now.secondsSince since).toNat

end Instant

end SensorRules.Time
