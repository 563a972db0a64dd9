import SensorRules.Names
import SensorRules.Time.Instant

/-!
The history of violations that are over, of bounded length.

* `Event`: a violation from its beginning to its end;
* `History`: the latest events, newest first, never more than its capacity;
* `History.push`: the oldest event goes when the history is full;
* `History.recent` and `History.forRule`.
-/

namespace SensorRules

open Time (Instant)

/-- A violation that is over. -/
structure Event where
  ruleName : String
  message : String
  start : Instant
  stop : Instant
  /-- The sensors at fault when the rule was last violated. -/
  sensors : NameSet
deriving DecidableEq

/-- The whole seconds from the beginning to the end, rounded toward zero; negative if the clock went
back. -/
def Event.durationSecs (e : Event) : Int :=
  e.stop.secondsSince e.start

/-- The latest events, newest first. -/
structure History where
  capacity : Nat
  events : List Event
  length_le : events.length ≤ capacity
deriving DecidableEq

namespace History

/-- The usual capacity. -/
def standardCapacity : Nat := 30

/-- An empty history for at least one event. -/
def ofCapacity (capacity : Nat) : History :=
  ⟨max 1 capacity, [], Nat.zero_le _⟩

/-- The history with one event more; the oldest one goes if there is no room. -/
def push (h : History) (e : Event) : History :=
  ⟨h.capacity, (e :: h.events).take h.capacity, List.length_take_le ..⟩

/-- The number of events. -/
def size (h : History) : Nat :=
  h.events.length

/-- At most `limit` events, newest first. -/
def recent (h : History) (limit : Nat) : List Event :=
  h.events.take limit

/-- The events of a rule, newest first. -/
def forRule (h : History) (ruleName : String) : List Event :=
  h.events.filter (·.ruleName == ruleName)

/-- The history without events. -/
def clear (h : History) : History :=
  ⟨h.capacity, [], Nat.zero_le _⟩

end History

end SensorRules
