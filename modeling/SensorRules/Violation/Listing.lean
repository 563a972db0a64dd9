import SensorRules.Home.Snapshot
import SensorRules.Violation.Issue

/-!
The written form of the issues that are shown after a pass.

* `Issue.toJson`: the record of an issue;
* `Issue.listToText`: a list of issues as a text.
-/

namespace SensorRules.Issue

/-- The record of an issue. -/
def toJson (i : Issue) : Json :=
  .object [
    ("ruleName", .text i.ruleName),
    ("priority", .int i.priority),
    ("since", .text i.since.toText),
    ("durationSecs", .int i.durationSecs),
    ("message", .text i.message),
    ("notifyGroups", .texts i.notifyGroups.toList),
    ("violatedSensors", .texts i.violatedSensors.toList),
    ("viewPermissions", .texts i.viewPermissions.toList),
    ("relatedLogs", .texts i.relatedLogs.toList)]

/-- Issues as a text. -/
def listToText (issues : List Issue) : String :=
  (Json.arr (issues.map toJson)).toText

end SensorRules.Issue
