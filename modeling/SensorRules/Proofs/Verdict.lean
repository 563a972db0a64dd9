import SensorRules.Proofs.Names
import SensorRules.Verdict

/-!
How a verdict divides the sensors of a rule.

* `Verdict.Divides`: the sensors that meet the rule and those at fault are among the sensors of the
  rule and apart from each other; none is at fault if the rule is met, and each is either if not;
* `Verdict.divides_violated` and `Expression.divides_judge`: so do the verdicts on a rule, but for
  those of questions to the house.
-/

namespace SensorRules

variable {names : NameSet} {setting : Setting} {e : Expression} {s : String}

/-- The verdict divides the given sensors into those that meet the rule and those at fault. -/
structure Verdict.Divides (v : Verdict) (names : NameSet) : Prop where
  mem_of_ok : ∀ s ∈ v.okSensors, s ∈ names
  mem_of_violated : ∀ s ∈ v.violatedSensors, s ∈ names
  disjoint : ∀ s ∈ v.okSensors, s ∉ v.violatedSensors
  none_violated : v.ok = true → v.violatedSensors = ∅
  all_divided : v.ok = false → ∀ s ∈ names, s ∈ v.okSensors ∨ s ∈ v.violatedSensors

lemma Verdict.divides_violated : (Verdict.violated names).Divides names where
  mem_of_ok s hs := by simp [violated] at hs
  mem_of_violated _ hs := hs
  disjoint s hs := by simp [violated] at hs
  none_violated h := by simp [violated] at h
  all_divided _ _ hs := .inr hs

lemma Verdict.divides_passed : Verdict.passed.Divides names where
  mem_of_ok s hs := by simp [passed] at hs
  mem_of_violated s hs := by simp [passed] at hs
  disjoint s hs := by simp [passed] at hs
  none_violated _ := rfl
  all_divided h := by simp [passed] at h

/-- The sensors that meet a rule that is not met and those at fault are all sensors of the rule. -/
lemma Verdict.Divides.union_eq {v : Verdict} (h : v.Divides names) (hok : v.ok = false) :
    v.okSensors.union v.violatedSensors = names := by
  refine Std.ExtTreeSet.ext_mem fun s => ?_
  rw [NameSet.mem_union]
  exact ⟨fun hs => hs.elim (h.mem_of_ok s) (h.mem_of_violated s), h.all_divided hok s⟩

namespace Expression

lemma mem_okSensors : s ∈ (e.judgeSensors setting names).okSensors ↔
    s ∈ names ∧ e.clears setting s = true := by
  rw [judgeSensors, Verdict.ofSensors, NameSet.mem_filter]

lemma mem_violatedSensors : s ∈ (e.judgeSensors setting names).violatedSensors ↔
    s ∈ names ∧ e.clears setting s = false := by
  rw [judgeSensors, Verdict.ofSensors, NameSet.mem_filter, Bool.not_eq_true']

lemma divides_judgeSensors : (e.judgeSensors setting names).Divides names where
  mem_of_ok _ hs := (mem_okSensors.mp hs).1
  mem_of_violated _ hs := (mem_violatedSensors.mp hs).1
  disjoint s hs hs' := by
    have hclears := (mem_okSensors.mp hs).2
    rw [(mem_violatedSensors.mp hs').2] at hclears
    cases hclears
  none_violated hok := by
    simp only [judgeSensors, Verdict.ofSensors, Bool.and_eq_true] at hok
    exact Std.ExtTreeSet.isEmpty_iff.mp hok.1
  all_divided _ s hs := by
    rw [mem_okSensors, mem_violatedSensors]
    cases e.clears setting s <;> simp [hs]

/-- The verdict of an expression divides the sensors, unless it is a question to the house. -/
lemma divides_judge (h : e.kind ≠ .generalPredicate) : (e.judge setting names).Divides names := by
  cases e with
  | aggregate => exact Verdict.divides_passed
  | generalCall call => exact absurd rfl h
  | numeric field op negated literal => exact divides_judgeSensors
  | textual field test negated literal => exact divides_judgeSensors
  | sensorCall call => exact divides_judgeSensors

end Expression

end SensorRules
