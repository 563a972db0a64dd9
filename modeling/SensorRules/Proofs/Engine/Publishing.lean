import SensorRules.Proofs.Engine.Agreement
import SensorRules.Proofs.Engine.Operation
import SensorRules.Proofs.Rule.Loading

/-!
What readers see is in step with what the engine knows.

* `Tracker.names_issues`: the issues are of just the rules with a violation, each once;
* `Engine.InStep`: the events and the issues that are published are those of the tracker;
* `Watch.inStep_perform`: every operation keeps an engine in step;
* `RuleSet.Spoilt`: a text from which no rules can be loaded;
* `Watch.published_after`: after any operations on a new engine, what is published is in step, and a
  pass with the rules of a bad text changes nothing.
-/

namespace SensorRules

open Time (Instant Zone)

/-! ### Issues and violations -/

namespace Tracker

variable {t : Tracker} {g : RuleGraph} {r : Round} {now : Instant} {name : String} {d : Violation}

/-- If the graph has a rule for every violation, there is one issue for each. -/
lemma names_issues (h : ∀ e ∈ t.records.toList, ∃ n, g.node? e.1 = some n) :
    ((t.issues g now).map Issue.ruleName).Perm t.records.keys := by
  have hnames : ∀ e ∈ t.records.toList,
      ((g.node? e.1).map fun n => t.issue n.rule e.2 now).map Issue.ruleName = some e.1 := by
    intro e he
    obtain ⟨n, hn⟩ := h e he
    rw [hn, Option.map_some, Option.map_some]
    exact congrArg some (RuleGraph.name_of_node? hn)
  have hkeys : (t.records.toList.filterMap fun e =>
      (g.node? e.1).map fun n => t.issue n.rule e.2 now).map Issue.ruleName = t.records.keys := by
    calc (t.records.toList.filterMap fun e =>
          (g.node? e.1).map fun n => t.issue n.rule e.2 now).map Issue.ruleName
        = t.records.toList.filterMap (some ∘ Prod.fst) := by
          rw [List.map_filterMap]
          exact List.filterMap_congr hnames
      _ = t.records.toList.map Prod.fst := congrFun List.filterMap_eq_map _
      _ = t.records.keys := Std.ExtTreeMap.map_fst_toList_eq_keys
  rw [issues, ← hkeys]
  exact (List.mergeSort_perm _ _).map Issue.ruleName

/-- Every rule with a violation after a round is in its graph. -/
lemma exists_node?_of_records_follow (hd : (t.follow r).records[name]? = some d) :
    ∃ n, r.graph.node? name = some n := by
  obtain ⟨⟨⟨n, hn, hname, -⟩, -⟩, -⟩ := fails_of_records_follow hd
  have hsome : (r.graph.node? name).isSome := List.find?_isSome.mpr ⟨n, hn, by simpa using hname⟩
  exact Option.isSome_iff_exists.mp hsome

end Tracker

/-! ### Engines -/

namespace Engine

variable {e : Engine} {zone : Zone}

/-- What is published is in step with the tracker. -/
structure InStep (e : Engine) : Prop where
  /-- The events are those of the history, newest first. -/
  events_eq : e.published.events = e.tracker.history.events
  /-- There is one issue for each violation. -/
  names : (e.published.issues.map Issue.ruleName).Perm e.tracker.records.keys

lemma inStep_new {registry : Registry} {capacity : Nat} {boundary : Boundary}
    {workingHours : WorkingHours} {offset : Option Int} :
    (new registry capacity boundary workingHours offset).InStep where
  events_eq := rfl
  names := by simp [new, Tracker.new, Published.nothing]

lemma inStep_clear : e.clear.InStep where
  events_eq := rfl
  names := by simp [clear, Tracker.clear, Published.nothing]

/-- After a pass, what is published is in step, whatever it was before. -/
lemma inStep_runPass {rules : List Rule} {home : Home} {now : Instant} :
    (e.runPass zone rules home now).engine.InStep where
  events_eq := List.take_of_length_le (e.trackerAfter zone rules home now).history.length_le
  names := by
    refine Tracker.names_issues fun v hv => ?_
    have hd := Std.ExtTreeMap.mem_toList_iff_getElem?_eq_some.mp hv
    exact Tracker.exists_node?_of_records_follow (r := e.round zone rules home now) hd

end Engine

/-! ### Bad texts -/

/-- No rules can be loaded from a text: it is no list of documents, or one of them is malformed. -/
def RuleSet.Spoilt (text : String) : Prop :=
  ∀ ds, RuleDocument.listOfText? text = some ds → ∃ d ∈ ds, d.Malformed

lemma RuleSet.exists_error_iff_spoilt {text : String} :
    (∃ e, ofText text = .error e) ↔ Spoilt text := by
  rw [Spoilt, ofText, Rule.listOfText]
  cases hds : RuleDocument.listOfText? text with
  | none =>
      constructor
      · intro _ ds hds
        cases hds
      · intro _
        exact ⟨.notDocuments, rfl⟩
  | some ds =>
      constructor
      · rintro ⟨e, he⟩ ds' hds'
        obtain rfl := Option.some.inj hds'
        exact exists_malformed_of_error he
      · intro h
        exact exists_error_of_malformed (h ds rfl)

/-! ### Operations -/

namespace Watch

variable {w : Watch} {zone : Zone}

/-- Every operation keeps an engine in step. -/
lemma inStep_perform (op : Operation) (h : w.engine.InStep) :
    (w.perform zone op).1.engine.InStep := by
  cases op with
  | change f => exact h
  | pass rules now => exact Engine.inStep_runPass
  | passFromText text now =>
      cases hset : RuleSet.ofText text with
      | ok set =>
          rw [perform_passFromText_of_ok hset]
          exact Engine.inStep_runPass
      | error e =>
          rw [perform_passFromText_of_error hset]
          exact h
  | clear => exact Engine.inStep_clear

/-- **Readers are in step.** After any operations on a new engine, whether its clock is pinned or is
that of a host in any zone, readers see the events of the history, newest first, and one issue for
each violation that lasts. A pass with the rules of a text that is spoilt leaves the engine and the
house as they are, and with those of any other text it is the pass with the rules that are loaded
from it. -/
theorem published_after (registry : Registry) (capacity : Nat) (boundary : Boundary)
    (workingHours : WorkingHours) (offset : Option Int) (zone : Zone) (home : Home)
    (ops : List Operation) :
    let w := Watch.after ⟨.new registry capacity boundary workingHours offset, home⟩ zone ops
    let published := w.engine.published
    let tracker := w.engine.tracker
    published.events = tracker.history.events ∧
    (∀ n, published.recentEvents n = tracker.history.recent n) ∧
    (published.issues.map Issue.ruleName).Nodup ∧
    (∀ name, name ∈ published.issues.map Issue.ruleName ↔ name ∈ tracker.records) ∧
    ∀ text now,
      (RuleSet.Spoilt text → w.perform zone (.passFromText text now) = (w, none)) ∧
      (¬ RuleSet.Spoilt text → ∃ set, RuleSet.ofText text = .ok set ∧
        w.perform zone (.passFromText text now) = w.perform zone (.pass set.rules now)) := by
  intro w published tracker
  have hstep : w.engine.InStep :=
    after_induction (I := fun w => w.engine.InStep) (fun _ op => inStep_perform op)
      Engine.inStep_new ops
  refine ⟨hstep.events_eq, ?_, ?_, ?_, fun text now => ⟨?_, ?_⟩⟩
  · intro n
    exact congrArg (List.take n) hstep.events_eq
  · exact hstep.names.nodup_iff.mpr Std.ExtTreeMap.nodup_keys
  · intro name
    rw [hstep.names.mem_iff, Std.ExtTreeMap.mem_keys]
  · intro h
    obtain ⟨e, he⟩ := RuleSet.exists_error_iff_spoilt.mpr h
    exact perform_passFromText_of_error he now
  · intro h
    cases hset : RuleSet.ofText text with
    | ok set => exact ⟨set, rfl, perform_passFromText_of_ok hset now⟩
    | error e => exact absurd (RuleSet.exists_error_iff_spoilt.mp ⟨e, hset⟩) h

end Watch

end SensorRules
