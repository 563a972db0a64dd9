import SensorRules.Proofs.Home.Annotating
import SensorRules.Proofs.Verdict
import SensorRules.Violation.Issue

/-!
What is shown of violations.

* `Tracker.mem_issues`: the issues are the violations of rules in the graph;
* `Tracker.meets_eq_false_iff`: by a verdict that divides the sensors of a rule, just those at fault
  do not meet it, and none if the rule is met;
* `Tracker.sensor?_annotate`: each sensor gets the annotations of just the rules that name it,
  whatever is written at other sensors;
* `Tracker.annotation_of_not_meets`, `Tracker.annotation_of_meets`: what the annotation of a rule
  says at a sensor that does or does not meet it.
-/

namespace SensorRules.Tracker

open Time (Instant)

variable {t : Tracker} {g : RuleGraph} {states : NameTable Verdict} {now : Instant} {home : Home}
  {s : String}

/-! ### The issues -/

lemma mem_issues {i : Issue} : i ∈ t.issues g now ↔
    ∃ name d n, t.records[name]? = some d ∧ g.node? name = some n ∧ t.issue n.rule d now = i := by
  rw [issues, List.mem_mergeSort, List.mem_filterMap]
  constructor
  · rintro ⟨⟨name, d⟩, hd, hi⟩
    obtain ⟨n, hn, rfl⟩ := Option.map_eq_some_iff.mp hi
    exact ⟨name, d, n, Std.ExtTreeMap.mem_toList_iff_getElem?_eq_some.mp hd, hn, rfl⟩
  · rintro ⟨name, d, n, hd, hn, rfl⟩
    refine ⟨(name, d), Std.ExtTreeMap.mem_toList_iff_getElem?_eq_some.mpr hd, ?_⟩
    rw [hn, Option.map_some]

/-! ### The annotations -/

/-- By a verdict that divides the sensors of a rule, just those at fault do not meet it. -/
lemma meets_eq_false_iff {v : Verdict} {names : NameSet} (h : v.Divides names) (hs : s ∈ names) :
    meets v s = false ↔ v.ok = false ∧ s ∈ v.violatedSensors := by
  cases hok : v.ok with
  | true => simp [meets, hok, h.none_violated hok]
  | false =>
      have hiff : s ∈ v.okSensors ↔ s ∉ v.violatedSensors :=
        ⟨h.disjoint s, fun hno => (h.all_divided hok s hs).resolve_right hno⟩
      have hcontains : v.okSensors.contains s = !v.violatedSensors.contains s := by
        rw [Bool.eq_iff_iff, Bool.not_eq_true', ← Bool.not_eq_true]
        exact hiff
      rw [meets, hok, hcontains, Bool.false_or, Bool.and_self, Bool.not_eq_false', eq_self,
        true_and]
      exact Std.ExtTreeSet.contains_iff_mem

section Annotation

variable {r : Rule} {v : Verdict} {d : Violation}

lemma annotation_ruleName : (t.annotation r v now s).ruleName = r.name := by
  unfold annotation
  split <;> rfl

lemma annotation_ok : (t.annotation r v now s).ok = meets v s := by
  unfold annotation
  split <;> simp_all

lemma annotation_of_meets (h : meets v s = true) : (t.annotation r v now s).message = r.okMessage ∧
    (t.annotation r v now s).notifyGroups = ∅ := by
  unfold annotation
  rw [if_pos h]
  exact ⟨rfl, rfl⟩

/-- At a sensor at fault, a rule says what its issue says. -/
lemma annotation_of_not_meets (h : meets v s = false) (hd : t.records[r.name]? = some d) :
    (t.annotation r v now s).message = (t.issue r d now).message ∧
      (t.annotation r v now s).notifyGroups = (t.issue r d now).notifyGroups := by
  unfold annotation
  rw [if_neg (by simp [h]), hd]
  exact ⟨rfl, rfl⟩

end Annotation

variable {j : RuleNode × Verdict} {state : Home × Nat}

lemma sensor?_writeOne (x : String) : (t.writeOne now j state x).1.sensor? s =
    if x = s then (state.1.sensor? s).map (·.annotate (t.annotation j.1.rule j.2 now s))
    else state.1.sensor? s := by
  rw [writeOne]
  cases hh : state.1.annotate? x (t.annotation j.1.rule j.2 now x) with
  | none =>
      rw [Home.annotate?_eq_none_iff] at hh
      by_cases hx : x = s
      · subst hx
        simp [hh]
      · simp [hx]
  | some home =>
      dsimp only
      rw [Home.sensor?_annotate? hh]
      by_cases hx : x = s
      · rw [hx]
      · rw [if_neg hx, if_neg hx]

lemma sensor?_foldl_writeOne {xs : List String} (h : xs.Nodup) :
    (xs.foldl (t.writeOne now j) state).1.sensor? s =
      if s ∈ xs then (state.1.sensor? s).map (·.annotate (t.annotation j.1.rule j.2 now s))
      else state.1.sensor? s := by
  induction xs generalizing state with
  | nil => simp
  | cons x xs ih =>
      obtain ⟨hx, hxs⟩ := List.nodup_cons.mp h
      rw [List.foldl_cons, ih hxs, sensor?_writeOne]
      by_cases hs : x = s
      · subst hs
        rw [if_neg hx, if_pos rfl, if_pos List.mem_cons_self]
      · simp only [hs, if_false, List.mem_cons, Ne.symm hs, false_or]

lemma sensor?_writeRule : (t.writeRule now state j).1.sensor? s =
    if s ∈ j.1.rule.sensorNames then
      (state.1.sensor? s).map (·.annotate (t.annotation j.1.rule j.2 now s))
    else state.1.sensor? s := by
  simp only [writeRule, sensor?_foldl_writeOne (NameSet.nodup_toList _), Std.ExtTreeSet.mem_toList]

/-- What rules say at a sensor. -/
def saidAt (t : Tracker) (now : Instant) (s : String) (js : List (RuleNode × Verdict)) :
    List Annotation :=
  (js.filter fun j => j.1.rule.sensorNames.contains s).map fun j => t.annotation j.1.rule j.2 now s

lemma sensor?_foldl_writeRule (js : List (RuleNode × Verdict)) :
    (js.foldl (t.writeRule now) state).1.sensor? s =
      (state.1.sensor? s).map fun x => (t.saidAt now s js).foldl Sensor.annotate x := by
  induction js generalizing state with
  | nil => simp [saidAt]
  | cons j js ih =>
      rw [List.foldl_cons, ih, sensor?_writeRule]
      by_cases hs : s ∈ j.1.rule.sensorNames
      · simp [saidAt, hs, Option.map_map, Function.comp_def]
      · simp [saidAt, hs]

/-- Each sensor gets the annotations of just the rules that name it. -/
lemma sensor?_annotate : (t.annotate home g states now).1.sensor? s =
    (home.sensor? s).map fun x => (t.saidAt now s (judged g states)).foldl Sensor.annotate x :=
  sensor?_foldl_writeRule _

end SensorRules.Tracker
