import SensorRules.Engine
import SensorRules.Proofs.Graph.Reported
import SensorRules.Proofs.Violation.Lasting
import SensorRules.Proofs.Violation.Writing

/-!
A pass tells one story at the sensors and in the list of issues.

* `Engine.round`: what the tracker is told in a pass;
* `Engine.exists_verdict`: every rule of the graph has a verdict in it, which divides the sensors of
  the rule if the rule is shown;
* `Engine.issues_agree_annotations`: after a pass, a rule that is shown finds fault with a sensor of
  the house just if it has an issue that lists the sensor, and says the same in both places.
-/

namespace SensorRules

open Time (Instant Zone)

lemma RuleNode.kind_ne_of_isShown {n : RuleNode} (h : n.isShown = true) :
    n.kind ≠ .generalPredicate := by
  simp only [isShown, RuleKind.isShown, Bool.and_eq_true, bne_iff_ne] at h
  exact h.2

namespace Engine

variable {e : Engine} {zone : Zone} {rules : List Rule} {home : Home} {now : Instant} {n : RuleNode}
  {s : String}

/-- What the tracker is told in a pass. -/
def round (e : Engine) (zone : Zone) (rules : List Rule) (home : Home) (now : Instant) : Round where
  graph := .ofRules rules
  states := ((RuleGraph.ofRules rules).evaluateAll ⟨home, e.registry, e.contextAt zone now⟩).1
  now

/-- The tracker after a pass. -/
def trackerAfter (e : Engine) (zone : Zone) (rules : List Rule) (home : Home) (now : Instant) :
    Tracker :=
  e.tracker.follow (e.round zone rules home now)

lemma issues_runPass : (e.runPass zone rules home now).engine.published.issues =
    (e.trackerAfter zone rules home now).issues (.ofRules rules) now := rfl

lemma home_runPass : (e.runPass zone rules home now).home =
    ((e.trackerAfter zone rules home now).annotate home (.ofRules rules)
      (e.round zone rules home now).states now).1 := rfl

/-- Every rule that is shown has a verdict in a pass, which divides the sensors of the rule. -/
lemma exists_verdict (e : Engine) (zone : Zone) (home : Home) (now : Instant)
    (hn : n ∈ (RuleGraph.ofRules rules).shown) :
    ∃ v, (e.round zone rules home now).states[n.name]? = some v ∧ v.Divides n.rule.sensorNames := by
  obtain ⟨hmem, hshown⟩ := List.mem_filter.mp hn
  obtain ⟨i, hi⟩ := List.getElem?_of_mem hmem
  let setting : Setting := ⟨home, e.registry, e.contextAt zone now⟩
  have hreport : ∃ v, ((RuleGraph.ofRules rules).ask setting .all
      ((RuleGraph.ofRules rules).cacheAfter setting [])).1[n.name]? = some v :=
    RuleGraph.distinct_ofRules.exists_report hi (.inr rfl) _
  obtain ⟨v, hv⟩ := hreport
  exact ⟨v, hv, RuleGraph.divides_of_reported hi (RuleNode.kind_ne_of_isShown hshown) hv⟩

/-- After a pass there is a violation of a rule that is shown just if the verdict is that it is not
met, with the sensors of this verdict. -/
lemma records_trackerAfter {v : Verdict} (hn : n ∈ (RuleGraph.ofRules rules).shown)
    (hv : (e.round zone rules home now).states[n.name]? = some v) :
    (e.trackerAfter zone rules home now).records[n.name]? =
      Violation.next? e.tracker.records[n.name]? v now := by
  obtain ⟨hmem, hshown⟩ := List.mem_filter.mp hn
  have hverdict : (e.round zone rules home now).verdict? n.name = some v :=
    Round.verdict?_eq_some_iff.mpr ⟨⟨n, hmem, rfl, hshown⟩, hv⟩
  rw [trackerAfter, Tracker.records_follow, hverdict]
  rfl

/-- The issue of a rule that is shown is that of its violation. -/
lemma mem_issues_iff {i : Issue} (hn : n ∈ (RuleGraph.ofRules rules).shown) :
    i ∈ (e.runPass zone rules home now).engine.published.issues ∧ i.ruleName = n.name ↔
      ∃ d, (e.trackerAfter zone rules home now).records[n.name]? = some d ∧
        (e.trackerAfter zone rules home now).issue n.rule d now = i := by
  have hmem := (List.mem_filter.mp hn).1
  rw [issues_runPass, Tracker.mem_issues]
  constructor
  · rintro ⟨⟨name, d, m, hd, hm, rfl⟩, hname⟩
    obtain rfl := RuleGraph.distinct_ofRules.eq_of_name (RuleGraph.mem_of_node? hm) hmem hname
    exact ⟨d, RuleGraph.name_of_node? hm ▸ hd, rfl⟩
  · rintro ⟨d, hd, rfl⟩
    exact ⟨⟨n.name, d, n, hd, RuleGraph.distinct_ofRules.node?_of_mem hmem, rfl⟩, rfl⟩

/-- Every issue is that of a rule that is shown. -/
lemma exists_shown_of_mem_issues {i : Issue}
    (hi : i ∈ (e.runPass zone rules home now).engine.published.issues) :
    ∃ n ∈ (RuleGraph.ofRules rules).shown, n.name = i.ruleName := by
  rw [issues_runPass, Tracker.mem_issues] at hi
  obtain ⟨name, d, m, hd, hm, rfl⟩ := hi
  have hname : m.name = name := RuleGraph.name_of_node? hm
  obtain ⟨⟨⟨n, hmem, hn, hshown⟩, -⟩, -⟩ := Tracker.fails_of_records_follow hd
  exact ⟨n, List.mem_filter.mpr ⟨hmem, hshown⟩, hn.trans hname.symm⟩

/-- An issue of a rule that is shown lists the sensors at fault by the verdict on it. -/
lemma listed_iff {v : Verdict} (hn : n ∈ (RuleGraph.ofRules rules).shown)
    (hv : (e.round zone rules home now).states[n.name]? = some v) :
    (∃ i ∈ (e.runPass zone rules home now).engine.published.issues,
      i.ruleName = n.name ∧ s ∈ i.violatedSensors) ↔ v.ok = false ∧ s ∈ v.violatedSensors := by
  have hrecords := records_trackerAfter hn hv
  rw [Violation.next?] at hrecords
  constructor
  · rintro ⟨i, hi, hname, hs⟩
    obtain ⟨d, hd, rfl⟩ := (mem_issues_iff hn).mp ⟨hi, hname⟩
    cases hok : v.ok with
    | true => simp [hrecords, hok] at hd
    | false =>
        rw [hrecords, hok] at hd
        obtain rfl := Option.some.inj hd
        exact ⟨rfl, hs⟩
  · rintro ⟨hok, hs⟩
    rw [hok] at hrecords
    obtain ⟨hi, hname⟩ := (mem_issues_iff hn).mpr ⟨_, hrecords, rfl⟩
    exact ⟨_, hi, hname, hs⟩

/-- At every sensor of the house that a rule names, there is its annotation after a pass. -/
lemma annotation_runPass {v : Verdict} {x : Sensor} (hn : n ∈ (RuleGraph.ofRules rules).shown)
    (hv : (e.round zone rules home now).states[n.name]? = some v) (hs : s ∈ n.rule.sensorNames)
    (hx : home.sensor? s = some x) :
    ∃ x', (e.runPass zone rules home now).home.sensor? s = some x' ∧ x'.annotations[n.name]? =
      some (Tracker.annotation (e.trackerAfter zone rules home now) n.rule v now s) := by
  have hmem : Tracker.annotation (e.trackerAfter zone rules home now) n.rule v now s ∈
      (e.trackerAfter zone rules home now).saidAt now s
        (Tracker.judged (.ofRules rules) (e.round zone rules home now).states) := by
    refine List.mem_map.mpr ⟨(n, v), List.mem_filter.mpr ⟨?_, hs⟩, rfl⟩
    exact List.mem_filterMap.mpr ⟨n, hn, by rw [hv]; rfl⟩
  rw [home_runPass, Tracker.sensor?_annotate, hx]
  refine ⟨_, rfl, ?_⟩
  have hsaid := Sensor.annotations_foldl_annotate x
    (Tracker.nodup_saidAt RuleGraph.distinct_ofRules) hmem
  rwa [Tracker.annotation_ruleName] at hsaid

/-- **One story**: after a pass over any rules, a rule that is shown and names a sensor of the house
finds fault with it, by its annotation there, just if its issue lists the sensor. It then says the
same in both places and notifies the same groups, and otherwise says that all is well and notifies
nobody. Every issue is that of a rule that is shown, and lists sensors of this rule only. -/
theorem issues_agree_annotations (e : Engine) (zone : Zone) (rules : List Rule) (home : Home)
    (now : Instant) :
    let graph := RuleGraph.ofRules rules
    let pass := e.runPass zone rules home now
    let issues := pass.engine.published.issues
    (∀ n ∈ graph.shown, ∀ s ∈ n.rule.sensorNames, ∀ x, home.sensor? s = some x →
      ∃ x' a, pass.home.sensor? s = some x' ∧ x'.annotations[n.name]? = some a ∧
        (a.ok = false ↔ ∃ i ∈ issues, i.ruleName = n.name ∧ s ∈ i.violatedSensors) ∧
        (∀ i ∈ issues, i.ruleName = n.name → s ∈ i.violatedSensors →
          a.message = i.message ∧ a.notifyGroups = i.notifyGroups) ∧
        (a.ok = true → a.message = n.rule.okMessage ∧ a.notifyGroups = ∅)) ∧
    ∀ i ∈ issues, ∃ n ∈ graph.shown, n.name = i.ruleName ∧
      ∀ s ∈ i.violatedSensors, s ∈ n.rule.sensorNames := by
  intro graph pass issues
  refine ⟨fun n hn s hs x hx => ?_, fun i hi => ?_⟩
  · obtain ⟨v, hv, hdivides⟩ := exists_verdict e zone home now hn
    obtain ⟨x', hx', ha⟩ := annotation_runPass hn hv hs hx
    have hmeets := Tracker.meets_eq_false_iff hdivides hs
    refine ⟨x', _, hx', ha, ?_, ?_, ?_⟩
    · rw [Tracker.annotation_ok, hmeets]
      exact (listed_iff hn hv).symm
    · intro i hi hname hsi
      have hfault := hmeets.mpr ((listed_iff hn hv).mp ⟨i, hi, hname, hsi⟩)
      obtain ⟨d, hd, rfl⟩ := (mem_issues_iff hn).mp ⟨hi, hname⟩
      exact Tracker.annotation_of_not_meets hfault hd
    · rw [Tracker.annotation_ok]
      exact Tracker.annotation_of_meets
  · obtain ⟨n, hn, hname⟩ := exists_shown_of_mem_issues hi
    obtain ⟨v, hv, hdivides⟩ := exists_verdict e zone home now hn
    refine ⟨n, hn, hname, fun s hs => ?_⟩
    exact hdivides.mem_of_violated s ((listed_iff hn hv).mp ⟨i, hi, hname.symm, hs⟩).2

end Engine

end SensorRules
