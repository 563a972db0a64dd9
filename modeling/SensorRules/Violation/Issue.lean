import SensorRules.Violation.Tracker

/-!
What is shown after a pass: the list of violations that last, the most urgent first, and the
annotations at the sensors.

* `Issue`: a violation as it is shown;
* `Tracker.issues`: the list, ascending by priority and then by name;
* `Tracker.annotation`: what a rule says at one of its sensors;
* `Tracker.annotate`: the annotations of all rules that are shown, and their number.
-/

namespace SensorRules

open Time (Instant)

/-- A violation as it is shown. -/
structure Issue where
  ruleName : String
  priority : Int
  since : Instant
  durationSecs : Nat
  message : String
  notifyGroups : NameSet
  violatedSensors : NameSet
  viewPermissions : NameSet
  relatedLogs : NameSet
deriving DecidableEq

namespace Issue

/-- The first issue is listed no later than the second. -/
def le (a b : Issue) : Bool :=
  a.priority < b.priority || (a.priority == b.priority && a.ruleName ≤ b.ruleName)

end Issue

namespace Tracker

/-- The violation of a rule as it is shown. -/
def issue (t : Tracker) (r : Rule) (v : Violation) (now : Instant) : Issue :=
  let escalation := t.escalation r v.since now
  { ruleName := r.name
    priority := r.priority
    since := v.since
    durationSecs := now.elapsedSince v.since
    message := escalation.messageFor r.name
    notifyGroups := escalation.notifyGroups
    violatedSensors := v.violatedSensors
    viewPermissions := r.viewPermissions
    relatedLogs := r.relatedLogs }

/-- The violations of rules in the graph, the most urgent first. -/
def issues (t : Tracker) (g : RuleGraph) (now : Instant) : List Issue :=
  let found := t.records.toList.filterMap fun e =>
    (g.node? e.1).map fun n => t.issue n.rule e.2 now
  found.mergeSort Issue.le

/-- The sensor meets the rule, by the verdict on it. -/
def meets (verdict : Verdict) (sensor : String) : Bool :=
  !verdict.violatedSensors.contains sensor && (verdict.ok || verdict.okSensors.contains sensor)

/-- What a rule says at one of its sensors. -/
def annotation (t : Tracker) (r : Rule) (verdict : Verdict) (now : Instant) (sensor : String) :
    Annotation :=
  let since := (t.records[r.name]?.map (·.since)).getD now
  let escalation := t.escalation r since now
  if meets verdict sensor then
    ⟨r.name, true, r.okMessage, ∅, r.viewPermissions⟩
  else
    ⟨r.name, false, escalation.messageFor r.name, escalation.notifyGroups, r.viewPermissions⟩

/-- The house with an annotation written, if the sensor exists, and the number written so far. -/
def writeOne (t : Tracker) (now : Instant) (j : RuleNode × Verdict) (state : Home × Nat)
    (sensor : String) : Home × Nat :=
  match state.1.annotate? sensor (t.annotation j.1.rule j.2 now sensor) with
  | some home => (home, state.2 + 1)
  | none => state

/-- The house with the annotations of a rule at its sensors. -/
def writeRule (t : Tracker) (now : Instant) (state : Home × Nat) (j : RuleNode × Verdict) :
    Home × Nat :=
  j.1.rule.sensorNames.toList.foldl (t.writeOne now j) state

/-- The house with the annotations of all rules that are shown and have a verdict, and how many were
written. -/
def annotate (t : Tracker) (home : Home) (g : RuleGraph) (states : NameTable Verdict)
    (now : Instant) : Home × Nat :=
  (judged g states).foldl (t.writeRule now) (home, 0)

end Tracker

end SensorRules
