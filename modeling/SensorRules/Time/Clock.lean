import SensorRules.Number.Whole
import SensorRules.Text.Blank
import SensorRules.Time.Instant

/-!
The clock on the wall: an instant seen at an offset from UTC.

* `Zone`: the offset of local clocks from UTC at each instant;
* `WallClock`: the day and the time of day at an offset;
* `ClockTime`: a time of day, with `ClockTime.le` and `ClockTime.lt`;
* `ClockTime.read`: the written form `hour:minute`, and `ClockTime.Error` for what is wrong with a
  text.
-/

namespace SensorRules.Time

/-- A time of day: seconds since midnight and nanoseconds. -/
structure ClockTime where
  second : Nat
  nano : Nat
deriving DecidableEq, Repr

namespace ClockTime

/-- The first time is before the second. -/
def lt (a b : ClockTime) : Bool :=
  a.second < b.second || (a.second == b.second && a.nano < b.nano)

/-- The first time is not after the second. -/
def le (a b : ClockTime) : Bool :=
  !lt b a

/-- The full hour and minute. -/
def ofHourMinute (hour minute : Nat) : ClockTime :=
  ⟨hour * 3600 + minute * 60, 0⟩

/-- The time lies on the way from `start` to `stop` on the circle of the day, `stop` not included.
-/
def isBetween (time start stop : ClockTime) : Bool :=
  if start.le stop then start.le time && time.lt stop
  else start.le time || time.lt stop

/-- What is wrong with a written time. -/
inductive Error where
  | outOfRange
  | invalid
  | tooShort
  | tooLong
deriving DecidableEq, Repr

/-- The wording of an error. -/
def Error.message : Error → String
  | outOfRange => "input is out of range"
  | invalid => "input contains invalid characters"
  | tooShort => "premature end of input"
  | tooLong => "trailing input"

/-- A number of one or two digits below `bound`, with blanks before it. -/
def readNumber (bound : Nat) (cs : List Char) : Except Error (Nat × List Char) :=
  let cs := Text.skipBlanks cs
  let digits := (cs.take 2).takeWhile Char.isDigit
  match cs, digits with
  | [], _ => .error .tooShort
  | _, [] => .error .invalid
  | _, _ =>
    let n := Number.ofDigits digits
    if n < bound then .ok (n, cs.drop digits.length) else .error .outOfRange

/-- Reads a colon. -/
def readColon : List Char → Except Error (List Char)
  | [] => .error .tooShort
  | c :: cs => if c = ':' then .ok cs else .error .invalid

/-- Reads `hour:minute`. -/
def read (s : String) : Except Error ClockTime := do
  let (hour, rest) ← readNumber 24 s.toList
  let rest ← readColon rest
  let (minute, rest) ← readNumber 60 rest
  if rest = [] then return ofHourMinute hour minute
  else throw .tooLong

end ClockTime

/-- The offset of the clocks of a place from UTC at each instant, in seconds to the east. It changes
with the season where clocks are put forward and back. -/
abbrev Zone := Instant → Int

/-- The clocks show UTC. -/
def Zone.utc : Zone :=
  fun _ => 0

/-- What the clock on the wall shows. -/
structure WallClock where
  /-- The number of the day. -/
  day : Int
  time : ClockTime
deriving DecidableEq, Repr

namespace WallClock

/-- The clock at an offset from UTC, in seconds to the east. -/
def ofInstant (now : Instant) (offset : Int) : WallClock :=
  let second := now.second + offset
  ⟨second / secondsPerDay, ⟨(second % secondsPerDay).toNat, now.nano⟩⟩

/-- The hour on the clock, from 0 to 23. -/
def hour (clock : WallClock) : Nat :=
  clock.time.second / 3600

/-- The clock shows a Saturday or a Sunday. -/
def isWeekend (clock : WallClock) : Bool :=
  Time.isWeekend clock.day

end WallClock

end SensorRules.Time
