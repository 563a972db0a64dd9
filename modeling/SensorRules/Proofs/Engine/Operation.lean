import Mathlib.Tactic.Lemma
import SensorRules.Engine

/-!
What may happen to an engine and to the house that it watches, in any order, on a host in some zone.

* `Watch`: an engine and its house; `Operation`: what may happen to them;
* `Watch.perform`: one operation, with the report of the pass that it makes, if it makes one;
* `Watch.after` and `Watch.trace`: operations one after the other, and what there is after each.
-/

namespace SensorRules

open Time (Instant Zone)

/-- An engine and the house that it watches. -/
structure Watch where
  engine : Engine
  home : Home

/-- What may happen to an engine and its house. -/
inductive Operation where
  /-- The house changes by itself. -/
  | change (f : Home → Home)
  /-- A pass with the given rules. -/
  | pass (rules : List Rule) (now : Instant)
  /-- A pass with the rules of a text. If the text is bad, nothing happens. -/
  | passFromText (text : String) (now : Instant)
  /-- The engine is cleared. -/
  | clear

namespace Watch

/-- The engine and the house that a pass leaves, with its report. -/
def ofPass (p : Pass) : Watch × Option Report :=
  (⟨p.engine, p.home⟩, some p.report)

/-- One operation, with the report of the pass that it makes. -/
def perform (w : Watch) (zone : Zone) : Operation → Watch × Option Report
  | .change f => (⟨w.engine, f w.home⟩, none)
  | .pass rules now => ofPass (w.engine.runPass zone rules w.home now)
  | .passFromText text now =>
    match w.engine.runPassFromText zone text w.home now with
    | .ok p => ofPass p
    | .error _ => (w, none)
  | .clear => (⟨w.engine.clear, w.home⟩, none)

/-- What operations leave, one after the other. -/
def after (w : Watch) (zone : Zone) (ops : List Operation) : Watch :=
  ops.foldl (fun w op => (w.perform zone op).1) w

/-- What there is after each of the operations, with the reports. -/
def trace (w : Watch) (zone : Zone) : List Operation → List (Watch × Option Report)
  | [] => []
  | op :: ops => w.perform zone op :: (w.perform zone op).1.trace zone ops

variable {w : Watch} {zone : Zone}

/-- What every operation keeps holds after all of them. -/
lemma after_induction {I : Watch → Prop} (h : ∀ w op, I w → I (w.perform zone op).1) (hw : I w)
    (ops : List Operation) : I (w.after zone ops) := by
  induction ops generalizing w with
  | nil => exact hw
  | cons op ops ih => exact ih (h w op hw)

lemma perform_passFromText_of_ok {text : String} {set : RuleSet} (h : RuleSet.ofText text = .ok set)
    (now : Instant) :
    w.perform zone (.passFromText text now) = w.perform zone (.pass set.rules now) := by
  simp only [perform, Engine.runPassFromText, h]

lemma perform_passFromText_of_error {text : String} {e : LoadError}
    (h : RuleSet.ofText text = .error e) (now : Instant) :
    w.perform zone (.passFromText text now) = (w, none) := by
  simp only [perform, Engine.runPassFromText, h]

end Watch

end SensorRules
