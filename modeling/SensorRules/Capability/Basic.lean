import SensorRules.Home.Basic
import SensorRules.Time.Clock

/-!
Capabilities: questions about a sensor or about the whole house, asked by name and answered by yes
or no.

* `Arity`: the numbers of arguments that a capability takes;
* `Context`: the instant and the clock that answers may depend on;
* `Capability`: a function with its arity, which is only entered with arguments of an accepted
  number;
* `Capability.Failure` and `Capability.Error`: why there is no answer;
* `Capability.dispatch`: the capability that a question is for, if it takes so many arguments;
* `Registry`: the capabilities of sensors and of the house, by name;
* `Registry.askSensor` and `Registry.askGeneral`: a question with its arguments.
-/

namespace SensorRules

open Time (Instant ClockTime WallClock)

/-- The numbers of arguments that a capability takes; `none` is no upper limit. -/
structure Arity where
  least : Nat
  most : Option Nat
deriving DecidableEq, Repr

namespace Arity

/-- So many arguments. -/
def exactly (n : Nat) : Arity :=
  ⟨n, some n⟩

/-- So many arguments or more. -/
def atLeast (n : Nat) : Arity :=
  ⟨n, none⟩

/-- From `least` to `most` arguments. -/
def between (least most : Nat) : Arity :=
  ⟨least, some most⟩

/-- The arity takes `n` arguments. -/
def Accepts (a : Arity) (n : Nat) : Prop :=
  a.least ≤ n ∧ ∀ m ∈ a.most, n ≤ m

instance (a : Arity) (n : Nat) : Decidable (a.Accepts n) :=
  inferInstanceAs (Decidable (_ ∧ _))

/-- The written form of an arity. -/
def text (a : Arity) : String :=
  match a.most with
  | some most =>
    if most = a.least then toString most else toString a.least ++ "..=" ++ toString most
  | none => toString a.least ++ "+"

end Arity

/-- The hours of a day in which people work: from the beginning of `start` to that of `stop`. -/
structure WorkingHours where
  start : Nat
  stop : Nat
deriving DecidableEq, Repr

/-- The usual working hours. -/
def WorkingHours.standard : WorkingHours :=
  ⟨8, 18⟩

/-- What is the same for all questions of one pass. -/
structure Context where
  now : Instant
  /-- The offset of the clock on the wall from UTC, in seconds to the east. -/
  offset : Int
  workingHours : WorkingHours

/-- What the clock on the wall shows. -/
def Context.clock (ctx : Context) : WallClock :=
  WallClock.ofInstant ctx.now ctx.offset

namespace Capability

/-- Why a capability has no answer. -/
inductive Failure where
  /-- An argument that should be a number of seconds. -/
  | notSeconds (arg : String)
  /-- A sensor that has not reported yet. -/
  | neverUpdated (sensor : String)
  /-- An argument that should be an hour from 0 to 24. -/
  | notAnHour (arg : String)
  /-- One of the two hours is missing. -/
  | hourMissing
  /-- An argument that should be a time of day. -/
  | notATime (arg : String) (error : ClockTime.Error)
  /-- A reason in words. -/
  | other (reason : String)
deriving DecidableEq, Repr

/-- The wording of a failure. -/
def Failure.message : Failure → String
  | notSeconds arg => "'" ++ arg ++ "' is not a number of seconds"
  | neverUpdated sensor => "sensor '" ++ sensor ++ "' has no update time"
  | notAnHour arg => "'" ++ arg ++ "' is not an hour"
  | hourMissing => "expects no arguments or a start and end hour"
  | notATime arg error => "'" ++ arg ++ "': " ++ error.message
  | other reason => reason

/-- Why a question has no answer. Every capability may end with any of these itself. -/
inductive Error where
  /-- There is no capability of the name. -/
  | unknown (name : String)
  /-- The capability does not take so many arguments. -/
  | arity (name : String) (expected : Arity) (got : Nat)
  /-- The capability fails. -/
  | failed (name : String) (failure : Failure)
deriving DecidableEq, Repr

/-- The wording of an error. -/
def Error.message : Error → String
  | unknown name => "unknown capability '" ++ name ++ "'"
  | arity name expected got =>
    "capability '" ++ name ++ "' expects " ++ expected.text ++ " argument(s), got " ++ toString got
  | failed name failure => "capability '" ++ name ++ "' failed: " ++ failure.message

end Capability

/-- A capability of things of type `α`. It is entered only with as many arguments as its arity
accepts. -/
structure Capability (α : Type) where
  arity : Arity
  run : Context → α → (args : List String) → arity.Accepts args.length →
    Except Capability.Error Bool

namespace Capability

/-- The capability that a table has under a name, which must take so many arguments. -/
def dispatch {α : Type} (table : NameTable (Capability α)) (name : String) (args : List String) :
    Except Error { c : Capability α // c.arity.Accepts args.length } :=
  match table[name]? with
  | none => .error (.unknown name)
  | some c =>
    if h : c.arity.Accepts args.length then .ok ⟨c, h⟩
    else .error (.arity name c.arity args.length)

/-- Asks the capability that a table has under a name. Its answer is handed on as it is, and so is
its error. -/
def ask {α : Type} (table : NameTable (Capability α)) (name : String) (ctx : Context) (x : α)
    (args : List String) : Except Error Bool := do
  let ⟨c, h⟩ ← dispatch table name args
  c.run ctx x args h

end Capability

/-- The capabilities of sensors and those of the house. The two kinds do not share names. -/
structure Registry where
  sensor : NameTable (Capability Sensor)
  general : NameTable (Capability Unit)

namespace Registry

/-- A registry without capabilities. -/
def empty : Registry :=
  ⟨∅, ∅⟩

/-- The registry with a capability of sensors, in place of one of the same name. -/
def addSensor (r : Registry) (name : String) (c : Capability Sensor) : Registry :=
  { r with sensor := r.sensor.insert name c }

/-- The registry with a capability of the house, in place of one of the same name. -/
def addGeneral (r : Registry) (name : String) (c : Capability Unit) : Registry :=
  { r with general := r.general.insert name c }

/-- Asks a capability of a sensor. -/
def askSensor (r : Registry) (name : String) (ctx : Context) (s : Sensor) (args : List String) :
    Except Capability.Error Bool :=
  Capability.ask r.sensor name ctx s args

/-- Asks a capability of the house. -/
def askGeneral (r : Registry) (name : String) (ctx : Context) (args : List String) :
    Except Capability.Error Bool :=
  Capability.ask r.general name ctx () args

end Registry

end SensorRules
