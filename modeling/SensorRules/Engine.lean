import SensorRules.Graph.Evaluation
import SensorRules.Rule.Loading
import SensorRules.Violation.Issue

/-!
The engine: everything that lasts from pass to pass. A pass evaluates a rule set on a house, takes
note of the violations, annotates the sensors and publishes what there is to show; readers see only
what the last complete pass has published.

* `Engine`, with `Engine.new`;
* `Engine.offsetAt`: the offset of the clock on the wall, pinned or that of the zone of the host;
* `Engine.runPass`: a pass with given rules; `Engine.runPassFromText`: with rules from a text, which
  leaves everything as it was if the text is bad;
* `Published`: what readers see.
-/

namespace SensorRules

open Time (Instant Zone)

/-- What readers see. -/
structure Published where
  issues : List Issue
  events : List Event
deriving DecidableEq

namespace Published

/-- Nothing has been published. -/
def nothing : Published :=
  ⟨[], []⟩

/-- The first issues, the most urgent ones. -/
def topIssues (p : Published) (n : Nat) : List Issue :=
  p.issues.take n

/-- At most `limit` events, newest first. -/
def recentEvents (p : Published) (limit : Nat) : List Event :=
  p.events.take limit

end Published

/-- What a pass has done. -/
structure Report where
  time : Instant
  /-- The number of rules in the graph. -/
  rules : Nat
  /-- The number of violations after the pass. -/
  violated : Nat
  /-- The number of annotations written. -/
  annotations : Nat
  outcome : Outcome
deriving DecidableEq

/-- Everything that lasts from pass to pass. -/
structure Engine where
  registry : Registry
  tracker : Tracker
  workingHours : WorkingHours
  /-- The offset from UTC to which the clock on the wall is pinned, in seconds to the east. Without
  one it is the clock of the host. -/
  offset : Option Int
  published : Published

/-- What comes of a pass. -/
structure Pass where
  engine : Engine
  home : Home
  report : Report

namespace Engine

/-- An engine before its first pass. -/
def new (registry : Registry) (capacity : Nat) (boundary : Boundary) (workingHours : WorkingHours)
    (offset : Option Int) : Engine :=
  ⟨registry, Tracker.new capacity boundary, workingHours, offset, .nothing⟩

/-- The offset of the clock on the wall at an instant, in a host of the given zone. -/
def offsetAt (e : Engine) (zone : Zone) (now : Instant) : Int :=
  e.offset.getD (zone now)

/-- What capabilities are asked in at an instant. -/
def contextAt (e : Engine) (zone : Zone) (now : Instant) : Context :=
  ⟨now, e.offsetAt zone now, e.workingHours⟩

/-- Evaluates the rules on the house as of an instant, in a host of the given zone. -/
def runPass (e : Engine) (zone : Zone) (rules : List Rule) (home : Home) (now : Instant) : Pass :=
  let graph := RuleGraph.ofRules rules
  let states := (graph.evaluateAll ⟨home, e.registry, e.contextAt zone now⟩).1
  let (tracker, outcome) := e.tracker.update graph states now
  let (home, written) := tracker.annotate home graph states now
  { engine := { e with
      tracker
      published := ⟨tracker.issues graph now, tracker.history.recent tracker.history.capacity⟩ }
    home
    report := ⟨now, graph.size, tracker.records.size, written, outcome⟩ }

/-- A pass with the rules of a text. -/
def runPassFromText (e : Engine) (zone : Zone) (text : String) (home : Home) (now : Instant) :
    Except LoadError Pass :=
  match RuleSet.ofText text with
  | .ok set => .ok (e.runPass zone set.rules home now)
  | .error err => .error err

/-- The engine without violations, history and published issues. -/
def clear (e : Engine) : Engine :=
  { e with tracker := e.tracker.clear, published := .nothing }

end Engine

end SensorRules
