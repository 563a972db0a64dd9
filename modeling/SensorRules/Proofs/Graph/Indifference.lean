import SensorRules.Graph.Evaluation
import SensorRules.Proofs.Capability.Registering

/-!
What verdicts do not depend on.

* `Expression.judge_congr`: if no capability looks at annotations, the verdict of an expression is
  the same in two houses that differ in annotations only;
* `RuleGraph.visit_congr`: a visit depends on the setting only as far as the verdicts of the
  expressions do;
* `RuleGraph.evaluateAll_congr`: so the verdicts on all rules of a graph are the same in the two
  houses, loops or not.
-/

namespace SensorRules

variable {registry : Registry} {context : Context} {home home' : Home} {name : String}

/-! ### Expressions -/

namespace Expression

variable {e : Expression}

/-- Whether an expression is true of a sensor does not depend on the rest of the house. -/
lemma fault?_home (home home' : Home) :
    e.fault? ⟨home, registry, context⟩ = e.fault? ⟨home', registry, context⟩ := by
  cases e with
  | aggregate => rfl
  | generalCall call => rfl
  | numeric field op negated literal => rfl
  | textual field test negated literal => rfl
  | sensorCall call => rfl

/-- It does not depend on annotations either. -/
lemma fault?_unannotated (hreg : registry.IgnoresAnnotations) (x : Sensor) :
    e.fault? ⟨home, registry, context⟩ x.unannotated =
      e.fault? ⟨home, registry, context⟩ x := by
  cases e with
  | aggregate => rfl
  | generalCall call => rfl
  | numeric field op negated literal => rfl
  | textual field test negated literal => rfl
  | sensorCall call => simp only [fault?, Registry.askSensor_unannotated hreg]

lemma clears_congr (hreg : registry.IgnoresAnnotations) (hhome : home.SameUnannotated home')
    (name : String) : e.clears ⟨home, registry, context⟩ name =
      e.clears ⟨home', registry, context⟩ name := by
  have hbind : ∀ home : Home, (home.sensor? name).bind (e.fault? ⟨home, registry, context⟩) =
      ((home.sensor? name).map Sensor.unannotated).bind (e.fault? ⟨home', registry, context⟩) := by
    intro home
    rw [fault?_home home home']
    cases home.sensor? name with
    | none => rfl
    | some x => exact (fault?_unannotated hreg x).symm
  rw [clears, clears, hbind home, hhome name, ← hbind home']

/-- The verdict of an expression is the same in houses that differ in annotations only. -/
lemma judge_congr (hreg : registry.IgnoresAnnotations) (hhome : home.SameUnannotated home')
    (names : NameSet) : e.judge ⟨home, registry, context⟩ names =
      e.judge ⟨home', registry, context⟩ names := by
  have hsensors : e.judgeSensors ⟨home, registry, context⟩ names =
      e.judgeSensors ⟨home', registry, context⟩ names := by
    rw [judgeSensors, judgeSensors, funext (clears_congr hreg hhome)]
  cases e with
  | aggregate => rfl
  | generalCall call => rfl
  | numeric field op negated literal => exact hsensors
  | textual field test negated literal => exact hsensors
  | sensorCall call => exact hsensors

end Expression

/-! ### Graphs -/

namespace RuleGraph

variable {g : RuleGraph} {setting setting' : Setting}

section Visit

variable (h : ∀ n holds, nodeVerdict setting n holds = nodeVerdict setting' n holds)

include h

/-- A visit uses the setting for the verdicts of expressions only. -/
lemma visit_congr (depth : Nat) (path : List Nat) (i : Nat) (c : Cache) :
    g.visit setting depth path i c = g.visit setting' depth path i c := by
  induction depth generalizing path i c with
  | zero => rfl
  | succ depth ih =>
      have hvisit : g.visit setting depth (i :: path) = g.visit setting' depth (i :: path) := by
        funext j c
        exact ih (i :: path) j c
      rw [visit, visit, hvisit]
      simp only [h]

lemma evaluateEach_congr (is : List Nat) (c : Cache) :
    g.evaluateEach setting is c = g.evaluateEach setting' is c := by
  induction is generalizing c with
  | nil => rfl
  | cons i is ih => simp only [evaluateEach, evaluateAt, visit_congr h, ih]

end Visit

/-- The verdicts on all rules are the same in houses that differ in annotations only. -/
theorem evaluateAll_congr (hreg : registry.IgnoresAnnotations)
    (hhome : home.SameUnannotated home') : g.evaluateAll ⟨home, registry, context⟩ =
      g.evaluateAll ⟨home', registry, context⟩ := by
  have hnode : ∀ n holds, nodeVerdict ⟨home, registry, context⟩ n holds =
      nodeVerdict ⟨home', registry, context⟩ n holds := by
    intro n holds
    rw [nodeVerdict, nodeVerdict, Expression.judge_congr hreg hhome]
  rw [evaluateAll, evaluateAll, evaluateEach_congr hnode]

end RuleGraph

end SensorRules
