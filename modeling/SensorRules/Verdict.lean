import SensorRules.Capability.Basic
import SensorRules.Expression.Basic

/-!
The verdict on a rule: whether it is met, and which of its sensors meet it or are at fault.

An expression on sensors states a fault. A sensor for which the fault cannot be decided, because it
is not in the house, does not report the field or has no answer, counts as at fault.

* `Verdict`, with `Verdict.passed`, `Verdict.violated` and `Verdict.ofSensors`;
* `Setting`: what expressions are judged against;
* `Expression.fault?`: whether an expression is true of one sensor, if that can be decided;
* `Expression.judge`: the verdict of an expression on a set of sensors.
-/

namespace SensorRules

/-- The verdict on a rule. -/
structure Verdict where
  ok : Bool
  /-- The sensors that meet the rule. -/
  okSensors : NameSet
  /-- The sensors at fault. -/
  violatedSensors : NameSet
deriving DecidableEq

namespace Verdict

/-- The rule is met, and no sensor has a part in it. -/
def passed : Verdict :=
  ⟨true, ∅, ∅⟩

/-- The rule is not met, and these sensors are at fault. -/
def violated (sensors : NameSet) : Verdict :=
  ⟨false, ∅, sensors⟩

/-- The rule is met if some sensor meets it and none is at fault. -/
def ofSensors (okSensors violatedSensors : NameSet) : Verdict :=
  ⟨violatedSensors.isEmpty && !okSensors.isEmpty, okSensors, violatedSensors⟩

end Verdict

/-- What expressions are judged against. -/
structure Setting where
  home : Home
  registry : Registry
  context : Context

namespace Expression

/-- Whether the expression is true of a sensor; `none` if that cannot be decided. Expressions that
are not on sensors are true of none. -/
def fault? (e : Expression) (setting : Setting) (s : Sensor) : Option Bool :=
  match e with
  | numeric field op negated literal => do
    let value ← (s.field? field).bind Number.firstNumber
    some (op.holds value literal != negated)
  | textual field test negated literal => do
    let value ← s.field? field
    some (test.holds value literal != negated)
  | sensorCall call =>
    match setting.registry.askSensor call.capability setting.context s call.args with
    | .ok answer => some (answer != call.negated)
    | .error _ => none
  | aggregate | generalCall _ => some false

/-- The sensor of the name is in the house, and the expression is decided to be false of it. -/
def clears (e : Expression) (setting : Setting) (name : String) : Bool :=
  ((setting.home.sensor? name).bind (e.fault? setting)) == some false

/-- The verdict on each of the sensors, taken together. -/
def judgeSensors (e : Expression) (setting : Setting) (names : NameSet) : Verdict :=
  Verdict.ofSensors (names.filter (e.clears setting)) (names.filter fun n => !e.clears setting n)

/-- The verdict of the expression on a set of sensors. A question to the house leaves the sensors
out; if it has no answer the rule is not met. -/
def judge (e : Expression) (setting : Setting) (names : NameSet) : Verdict :=
  match e with
  | aggregate => .passed
  | generalCall call =>
    match setting.registry.askGeneral call.capability setting.context call.args with
    | .ok answer => if answer != call.negated then .passed else .violated ∅
    | .error _ => .violated ∅
  | numeric .. | textual .. | sensorCall _ => e.judgeSensors setting names

end Expression

end SensorRules
