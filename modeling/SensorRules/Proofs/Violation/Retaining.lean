import Mathlib.Data.List.DropRight
import Mathlib.Tactic.Lemma
import SensorRules.Violation.History

/-!
What a history of bounded length retains of a log without bounds.

* `History.Operation`, `History.after`: events that are pushed and clearings, one after the other, on
  a new history;
* `History.log`: all events pushed since the last clearing;
* `History.events_after`: the history holds the end of the log, newest first;
* `History.retains_latest`: and so its size, the latest events and those of a rule are read off the
  end of the log.
-/

namespace SensorRules

namespace History

/-- What is done to a history. -/
inductive Operation where
  | push (e : Event)
  | clear

/-- The history after an operation. -/
def perform (h : History) : Operation → History
  | .push e => h.push e
  | .clear => h.clear

/-- A new history for so many events after operations, one after the other. -/
def after (capacity : ℕ) (ops : List Operation) : History :=
  ops.foldl perform (ofCapacity capacity)

/-- The event that an operation pushes. -/
def Operation.event? : Operation → Option Event
  | .push e => some e
  | .clear => none

/-- The events that were pushed since the last clearing, oldest first. -/
def log (ops : List Operation) : List Event :=
  (ops.rtakeWhile (·.event?.isSome)).filterMap Operation.event?

variable {capacity : ℕ} {ops : List Operation}

lemma log_push (ops : List Operation) (e : Event) : log (ops ++ [.push e]) = log ops ++ [e] := by
  rw [log, List.rtakeWhile_concat_pos _ _ _ rfl, List.filterMap_append, ← log]
  rfl

lemma log_clear (ops : List Operation) : log (ops ++ [.clear]) = [] := by
  rw [log, List.rtakeWhile_concat_neg _ _ _ (by simp [Operation.event?]), List.filterMap_nil]

lemma after_concat (capacity : ℕ) (ops : List Operation) (op : Operation) :
    after capacity (ops ++ [op]) = (after capacity ops).perform op := by
  rw [after, List.foldl_append]
  rfl

/-- No operation changes the room in a history. -/
lemma capacity_perform (h : History) (op : Operation) : (h.perform op).capacity = h.capacity := by
  cases op <;> rfl

lemma capacity_after (capacity : ℕ) (ops : List Operation) :
    (after capacity ops).capacity = max 1 capacity := by
  induction ops using List.reverseRecOn with
  | nil => rfl
  | append_singleton ops op ih => rw [after_concat, capacity_perform, ih]

/-- An event that is pushed onto the end of a log takes the place of the one that does not fit any
more. -/
lemma take_cons_take {es : List Event} {c : ℕ} (hc : 0 < c) (e : Event) :
    (e :: es.take c).take c = (e :: es).take c := by
  obtain ⟨c, rfl⟩ := Nat.exists_eq_add_one.mpr hc
  rw [List.take_succ_cons, List.take_take, Nat.min_eq_left (Nat.le_succ c), List.take_succ_cons]

/-- The history holds the end of the log, newest first. -/
lemma events_after (capacity : ℕ) (ops : List Operation) :
    (after capacity ops).events = ((log ops).rtake (max 1 capacity)).reverse := by
  rw [List.rtake_eq_reverse_take_reverse, List.reverse_reverse]
  induction ops using List.reverseRecOn with
  | nil => exact List.take_nil.symm
  | append_singleton ops op ih =>
      rw [after_concat]
      cases op with
      | clear =>
          rw [log_clear]
          exact List.take_nil.symm
      | push e =>
          have hpush : ((after capacity ops).push e).events =
              (e :: (after capacity ops).events).take (after capacity ops).capacity := rfl
          rw [perform, hpush, capacity_after, ih, take_cons_take (by omega), log_push,
            List.reverse_append, List.reverse_singleton, List.singleton_append]

/-- **A bounded history is the end of an unbounded log.** After any events pushed and clearings, with
room for at least one event: the size is the length of the log as far as there is room for it, the
latest events are those of the end of the log, newest first, and the events of a rule are those among
them that are of this rule, in the same order. -/
theorem retains_latest (capacity : ℕ) (ops : List Operation) :
    (after capacity ops).size = min (max 1 capacity) (log ops).length ∧
    (after capacity ops).size ≤ max 1 capacity ∧
    (∀ n, (after capacity ops).recent n =
      ((log ops).rtake (max 1 capacity)).reverse.take n) ∧
    ∀ ruleName, (after capacity ops).forRule ruleName =
      ((after capacity ops).recent (max 1 capacity)).filter fun e => e.ruleName = ruleName := by
  have hsize : (after capacity ops).size = min (max 1 capacity) (log ops).length := by
    rw [size, events_after, List.rtake_eq_reverse_take_reverse, List.reverse_reverse,
      List.length_take, List.length_reverse]
  have hroom : (after capacity ops).size ≤ max 1 capacity := by
    rw [hsize]
    exact Nat.min_le_left _ _
  refine ⟨hsize, hroom, fun n => by rw [recent, events_after], fun ruleName => ?_⟩
  have hall : (after capacity ops).recent (max 1 capacity) = (after capacity ops).events :=
    List.take_of_length_le hroom
  rw [hall, forRule]
  rfl

end History

end SensorRules
