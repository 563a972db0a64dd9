import SensorRules.Graph.Basic
import SensorRules.Verdict
import SensorRules.Violation.Escalation
import SensorRules.Violation.History

/-!
The violations that last, from pass to pass. A violation begins with the first pass in which its
rule is shown and not met, and ends with the first in which the rule is met; then it goes into the
history. If the rule is no longer there or no longer shown, the violation is dropped without a
trace.

* `Violation`: when a violation began, and the sensors now at fault;
* `Outcome`: the rules whose violations a pass opens, clears and drops;
* `Tracker`: the violations by rule, and the history;
* `Tracker.observe`: the verdict on one rule; `Tracker.update`: a whole pass.
-/

namespace SensorRules

open Time (Instant)

/-- A violation that lasts. -/
structure Violation where
  since : Instant
  violatedSensors : NameSet
deriving DecidableEq

/-- The rules whose violations a pass opens, clears and drops. -/
structure Outcome where
  opened : List String
  cleared : List String
  dropped : List String
deriving DecidableEq, Repr

/-- Nothing has changed. -/
def Outcome.none : Outcome :=
  ⟨[], [], []⟩

/-- The violations by rule, and those that are over. -/
structure Tracker where
  records : NameTable Violation
  history : History
  boundary : Boundary
deriving DecidableEq

namespace Tracker

/-- A tracker that knows of no violation. -/
def new (capacity : Nat) (boundary : Boundary) : Tracker :=
  ⟨∅, History.ofCapacity capacity, boundary⟩

/-- A tracker with the usual settings. -/
def standard : Tracker :=
  new History.standardCapacity .previousHook

/-- The escalation of a rule that is violated since an instant. -/
def escalation (t : Tracker) (r : Rule) (since now : Instant) : Escalation :=
  Escalation.of r.levels (now.elapsedSince since) t.boundary

/-- The event of a violation that ends now. -/
def event (t : Tracker) (r : Rule) (v : Violation) (now : Instant) : Event where
  ruleName := r.name
  message := (t.escalation r v.since now).messageFor r.name
  start := v.since
  stop := now
  sensors := v.violatedSensors

/-- Takes note of the verdict on a rule. -/
def observe (now : Instant) (state : Tracker × Outcome) (judged : RuleNode × Verdict) :
    Tracker × Outcome :=
  let (t, outcome) := state
  let (n, verdict) := judged
  match verdict.ok, t.records[n.name]? with
  | false, some v =>
    let v := { v with violatedSensors := verdict.violatedSensors }
    ({ t with records := t.records.insert n.name v }, outcome)
  | false, none =>
    let v : Violation := ⟨now, verdict.violatedSensors⟩
    ({ t with records := t.records.insert n.name v },
      { outcome with opened := outcome.opened ++ [n.name] })
  | true, some v =>
    ({ t with
        records := t.records.erase n.name
        history := t.history.push (t.event n.rule v now) },
      { outcome with cleared := outcome.cleared ++ [n.name] })
  | true, none => (t, outcome)

/-- The rules that are shown and have a verdict, with it. -/
def judged (g : RuleGraph) (states : NameTable Verdict) : List (RuleNode × Verdict) :=
  g.shown.filterMap fun n => states[n.name]?.map (n, ·)

/-- Drops the violations of rules other than those with the given names. -/
def keepOnly (names : NameSet) (state : Tracker × Outcome) : Tracker × Outcome :=
  let (t, outcome) := state
  ({ t with records := t.records.filter fun name _ => names.contains name },
    { outcome with dropped := t.records.keys.filter fun name => !names.contains name })

/-- Takes note of the verdicts of a pass. -/
def update (t : Tracker) (g : RuleGraph) (states : NameTable Verdict) (now : Instant) :
    Tracker × Outcome :=
  let js := judged g states
  keepOnly (NameSet.ofNames (js.map (·.1.name))) (js.foldl (observe now) (t, .none))

/-- The tracker without violations and without history. -/
def clear (t : Tracker) : Tracker :=
  { t with records := ∅, history := t.history.clear }

end Tracker

end SensorRules
