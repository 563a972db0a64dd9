import SensorRules.Capability.Basic
import SensorRules.Text.Letter

/-!
The capabilities that every house has.

Of sensors:

* `hasField`: the sensor reports a field;
* `isReachable` and `isLowBattery`: flags that a sensor reports as `true`;
* `isUpdatedWithin`: the sensor has reported no longer ago than a number of seconds;
* `fieldIn`: the text of a field is one of a list.

Of the house:

* `isWorkingHours`: a day from Monday to Friday, within the working hours or between two given
  hours;
* `isWeekend`;
* `isBetween`: the time of day lies on the way from one time to another.

`Registry.standard` has them all.
-/

namespace SensorRules.Capability

open Number (signed? unsigned? word64 word32)
open Time (ClockTime WallClock)

/-! ### Sensors -/

/-- The sensor reports the field as `true`, in any case and with blanks around it or not. -/
def isSet (s : Sensor) (field : String) : Bool :=
  (s.field? field).any fun value => Text.sameLetters (Text.trim value) "true"

/-- `hasField field`. -/
def hasField : Capability Sensor where
  arity := .exactly 1
  run _ s args h :=
    have : 1 ≤ args.length := h.1
    .ok (s.field? args[0]).isSome

/-- `isReachable`: the radio link is not reported to be down. -/
def isReachable : Capability Sensor where
  arity := .exactly 0
  run _ s _ _ := .ok !isSet s "UNREACH"

/-- `isLowBattery`. -/
def isLowBattery : Capability Sensor where
  arity := .exactly 0
  run _ s _ _ := .ok (isSet s "LOWBAT")

/-- `isUpdatedWithin seconds`: no more whole seconds have passed since the last report. -/
def isUpdatedWithin : Capability Sensor where
  arity := .exactly 1
  run ctx s args h :=
    have : 1 ≤ args.length := h.1
    match signed? (word64 / 2) args[0], s.lastUpdated with
    | none, _ => .error (.failed "isUpdatedWithin" (.notSeconds args[0]))
    | some _, none => .error (.failed "isUpdatedWithin" (.neverUpdated s.name))
    | some seconds, some last => .ok (ctx.now.secondsSince last ≤ seconds)

/-- `fieldIn field value...`: the field has one of the values, of which there is at least one. -/
def fieldIn : Capability Sensor where
  arity := .atLeast 2
  run _ s args h :=
    have : 2 ≤ args.length := h.1
    .ok ((s.field? args[0]).any (args.tail.contains ·))

/-! ### The house -/

/-- The clock shows an hour from `start` on and before `stop`, from Monday to Friday. -/
def isWorkTime (clock : WallClock) (start stop : Nat) : Bool :=
  !clock.isWeekend && start ≤ clock.hour && clock.hour < stop

/-- An hour from 0 to 24, for `isWorkingHours`. -/
def readHour (arg : String) : Except Error Nat :=
  match (unsigned? word32 arg).filter (· ≤ 24) with
  | some hour => .ok hour
  | none => .error (.failed "isWorkingHours" (.notAnHour arg))

/-- `isWorkingHours`, or `isWorkingHours start stop` for other hours than the usual ones. -/
def isWorkingHours : Capability Unit where
  arity := .between 0 2
  run ctx _ args _ :=
    match args with
    | [] => .ok (isWorkTime ctx.clock ctx.workingHours.start ctx.workingHours.stop)
    | [start, stop] => do
      let start ← readHour start
      let stop ← readHour stop
      return isWorkTime ctx.clock start stop
    | _ => .error (.failed "isWorkingHours" .hourMissing)

/-- `isWeekend`. -/
def isWeekend : Capability Unit where
  arity := .exactly 0
  run ctx _ _ _ := .ok ctx.clock.isWeekend

/-- A time of day, for `isBetween`. -/
def readTime (arg : String) : Except Error ClockTime :=
  match ClockTime.read arg with
  | .ok time => .ok time
  | .error e => .error (.failed "isBetween" (.notATime arg e))

/-- `isBetween start stop`: past midnight if the first time is the later one. -/
def isBetween : Capability Unit where
  arity := .exactly 2
  run ctx _ args h := do
    have : 2 ≤ args.length := h.1
    let start ← readTime args[0]
    let stop ← readTime args[1]
    return ctx.clock.time.isBetween start stop

end SensorRules.Capability

namespace SensorRules

/-- The registry with the capabilities that every house has. -/
def Registry.standard : Registry :=
  empty
    |>.addSensor "hasField" Capability.hasField
    |>.addSensor "isReachable" Capability.isReachable
    |>.addSensor "isLowBattery" Capability.isLowBattery
    |>.addSensor "isUpdatedWithin" Capability.isUpdatedWithin
    |>.addSensor "fieldIn" Capability.fieldIn
    |>.addGeneral "isWorkingHours" Capability.isWorkingHours
    |>.addGeneral "isWeekend" Capability.isWeekend
    |>.addGeneral "isBetween" Capability.isBetween

end SensorRules
