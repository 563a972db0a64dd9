import SensorRules.Proofs.Engine.Agreement
import SensorRules.Proofs.Engine.Operation
import SensorRules.Proofs.Graph.Meaning
import SensorRules.Proofs.Violation.Ending
import SensorRules.Proofs.Violation.Writing

/-!
The order in which rules are listed, over any operations on an engine and its house.

* `Tracker.told_perm`: graphs of the same rules tell a tracker the same, if the verdicts are;
* `Engine.Alike`: two engines differ in their histories and published events only;
* `Engine.Alike.runPass`: passes with the same rules in another order keep engines alike, if they
  find the same verdicts;
* `Operation.Reordered`: two operations differ in the order of rules with distinct names and no loop
  only;
* `Watch.trace_reordered`: whatever happens, the order of such rules does not matter to anything but
  the order of events.
-/

namespace SensorRules

open Time (Instant Zone)

/-! ### Trackers -/

namespace Tracker

variable {t t' : Tracker} {g g' : RuleGraph} {rs rs' : List Rule} {states : NameTable Verdict}
  {now : Instant}

/-- What a tracker is told by a graph that is built is told by its rules. -/
lemma told_ofRules : told (.ofRules rs) states =
    ((RuleGraph.ofRules rs).nodes.map RuleNode.rule).filterMap fun r =>
      if r.isShown then states[r.name]?.map (r, ·) else none := by
  rw [told, judged, RuleGraph.shown, List.filterMap_filter, List.map_filterMap, List.filterMap_map]
  refine List.filterMap_congr fun n hn => ?_
  simp only [RuleGraph.isShown_of_mem hn, Function.comp_apply]
  split
  next => rw [Option.map_map]; rfl
  next => rfl

lemma told_perm (h : (RuleGraph.ofRules rs).SameRules (.ofRules rs')) :
    (told (.ofRules rs) states).Perm (told (.ofRules rs') states) := by
  rw [told_ofRules, told_ofRules]
  exact h.filterMap _

/-- Escalation depends on a tracker by its boundary only. -/
lemma escalation_congr (hboundary : t.boundary = t'.boundary) : t.escalation = t'.escalation := by
  funext r since now
  rw [escalation, escalation, hboundary]

lemma annotation_congr (hrecords : t.records = t'.records) (hboundary : t.boundary = t'.boundary) :
    t.annotation = t'.annotation := by
  funext r v now s
  unfold annotation
  rw [hrecords, escalation_congr hboundary]

lemma issue_congr (hboundary : t.boundary = t'.boundary) : t.issue = t'.issue := by
  funext r v now
  rw [issue, issue, escalation_congr hboundary]

/-- The issues are those of the violations, by the rules with their names. -/
lemma issues_congr (hrecords : t.records = t'.records) (hboundary : t.boundary = t'.boundary)
    (hrules : ∀ name, (g.node? name).map RuleNode.rule = (g'.node? name).map RuleNode.rule) :
    t.issues g now = t'.issues g' now := by
  have hissue : ∀ e : String × Violation, ((g.node? e.1).map fun n => t.issue n.rule e.2 now) =
      (g'.node? e.1).map fun n => t'.issue n.rule e.2 now := by
    intro e
    calc ((g.node? e.1).map fun n => t.issue n.rule e.2 now)
        = ((g.node? e.1).map RuleNode.rule).map fun r => t.issue r e.2 now := by
          rw [Option.map_map]; rfl
      _ = ((g'.node? e.1).map RuleNode.rule).map fun r => t'.issue r e.2 now := by
          rw [hrules, issue_congr hboundary]
      _ = (g'.node? e.1).map fun n => t'.issue n.rule e.2 now := by
          rw [Option.map_map]; rfl
  simp only [issues, hissue, hrecords]

end Tracker

/-! ### Passes -/

/-- The two engines are the same but for their histories and the events that are published. -/
structure Engine.Alike (e e' : Engine) : Prop where
  registry : e.registry = e'.registry
  workingHours : e.workingHours = e'.workingHours
  offset : e.offset = e'.offset
  boundary : e.tracker.boundary = e'.tracker.boundary
  records : e.tracker.records = e'.tracker.records
  issues : e.published.issues = e'.published.issues

/-- The two reports are the same but for the order in which the violations that began and ended are
listed. -/
structure Report.Alike (r r' : Report) : Prop where
  time : r.time = r'.time
  rules : r.rules = r'.rules
  violated : r.violated = r'.violated
  annotations : r.annotations = r'.annotations
  outcome : r.outcome.Alike r'.outcome

namespace Engine

variable {e e' : Engine} {zone : Zone} {rules rules' : List Rule} {home : Home} {now : Instant}

lemma Alike.refl (e : Engine) : e.Alike e :=
  ⟨rfl, rfl, rfl, rfl, rfl, rfl⟩

lemma Alike.contextAt (h : e.Alike e') (zone : Zone) (now : Instant) :
    e.contextAt zone now = e'.contextAt zone now := by
  rw [Engine.contextAt, Engine.contextAt, offsetAt, offsetAt, h.offset, h.workingHours]

/-- Passes with the same rules that find the same verdicts keep engines alike, and report alike of
the same house. -/
theorem Alike.runPass (h : e.Alike e')
    (hrules : (RuleGraph.ofRules rules).SameRules (.ofRules rules'))
    (hstates : (e.round zone rules home now).states = (e'.round zone rules' home now).states) :
    (e.runPass zone rules home now).engine.Alike (e'.runPass zone rules' home now).engine ∧
      (e.runPass zone rules home now).home = (e'.runPass zone rules' home now).home ∧
      (e.runPass zone rules home now).report.Alike (e'.runPass zone rules' home now).report := by
  have htold : (Tracker.told (.ofRules rules) (e.round zone rules home now).states).Perm
      (Tracker.told (.ofRules rules') (e'.round zone rules' home now).states) := by
    rw [hstates]
    exact Tracker.told_perm hrules
  have hrecords : (e.trackerAfter zone rules home now).records =
      (e'.trackerAfter zone rules' home now).records :=
    Tracker.records_follow_perm htold rfl h.records
  have hboundary : (e.trackerAfter zone rules home now).boundary =
      (e'.trackerAfter zone rules' home now).boundary := by
    rw [trackerAfter, trackerAfter, Tracker.boundary_follow, Tracker.boundary_follow, h.boundary]
  have hannotate : (e.trackerAfter zone rules home now).annotate home (.ofRules rules)
        (e.round zone rules home now).states now =
      (e'.trackerAfter zone rules' home now).annotate home (.ofRules rules')
        (e'.round zone rules' home now).states now :=
    Tracker.annotate_perm RuleGraph.distinct_ofRules htold
      (Tracker.annotation_congr hrecords hboundary)
  have hissues : (e.trackerAfter zone rules home now).issues (.ofRules rules) now =
      (e'.trackerAfter zone rules' home now).issues (.ofRules rules') now :=
    Tracker.issues_congr hrecords hboundary hrules.map_rule_node?
  have hsize : (RuleGraph.ofRules rules).size = (RuleGraph.ofRules rules').size := by
    simpa [RuleGraph.size] using hrules.length_eq
  have houtcome : (e.runPass zone rules home now).report.outcome.Alike
      (e'.runPass zone rules' home now).report.outcome :=
    Tracker.outcome_update_perm RuleGraph.distinct_ofRules RuleGraph.distinct_ofRules htold
      h.records
  refine ⟨⟨h.registry, h.workingHours, h.offset, hboundary, hrecords, hissues⟩, ?_, ?_⟩
  · exact congrArg Prod.fst hannotate
  · have hviolated := congrArg (fun t : NameTable Violation => t.size) hrecords
    exact ⟨rfl, hsize, hviolated, congrArg Prod.snd hannotate, houtcome⟩

end Engine

/-! ### Operations -/

/-- The two operations are the same, or passes at the same time with rules that have distinct names
and no loop, in any two orders. -/
inductive Operation.Reordered : Operation → Operation → Prop
  | same (op : Operation) : Reordered op op
  | pass {rules rules' : List Rule} (now : Instant) :
      rules.Perm rules' → (rules.map Rule.name).Nodup → (RuleGraph.ofRules rules).Acyclic →
      Reordered (.pass rules now) (.pass rules' now)

lemma Operation.Reordered.symm {op op' : Operation} (h : op.Reordered op') : op'.Reordered op := by
  cases h with
  | same op => exact .same op
  | pass now hperm hnodup hacyclic =>
      have hrules := RuleGraph.sameRules_of_perm hnodup hperm
      refine .pass now hperm.symm ?_ (hrules.symm.relisted.acyclic hacyclic)
      exact (hperm.map Rule.name).nodup_iff.mp hnodup

namespace Watch

/-- The engines are alike, and the houses are the same. -/
structure Alike (w w' : Watch) : Prop where
  engine : w.engine.Alike w'.engine
  home : w.home = w'.home

/-- What two operations leave is alike, and so are the reports, if there are any. -/
def SameResult (x x' : Watch × Option Report) : Prop :=
  x.1.Alike x'.1 ∧ Option.Rel Report.Alike x.2 x'.2

variable {w w' : Watch} {zone : Zone} {op op' : Operation} {ops ops' : List Operation}

/-- Passes with the same rules in two orders have alike results if they find the same verdicts. -/
lemma Alike.pass {rules rules' : List Rule} (h : w.Alike w')
    (hrules : (RuleGraph.ofRules rules).SameRules (.ofRules rules')) (now : Instant)
    (hverdicts : ∀ setting, ((RuleGraph.ofRules rules).evaluateAll setting).1 =
      ((RuleGraph.ofRules rules').evaluateAll setting).1) :
    SameResult (w.perform zone (.pass rules now)) (w'.perform zone (.pass rules' now)) := by
  obtain ⟨e, home⟩ := w
  obtain ⟨e', home'⟩ := w'
  obtain ⟨he, rfl : home = home'⟩ := h
  have hstates : (e.round zone rules home now).states = (e'.round zone rules' home now).states := by
    have hsetting : Setting.mk home e.registry (e.contextAt zone now) =
        Setting.mk home e'.registry (e'.contextAt zone now) := by
      rw [he.registry, he.contextAt]
    rw [Engine.round, Engine.round, hsetting]
    exact hverdicts _
  obtain ⟨hengine, hhome, hreport⟩ := he.runPass hrules hstates
  exact ⟨⟨hengine, hhome⟩, .some hreport⟩

/-- **One operation** has alike results in watches that are alike, if the order of rules is all that
differs. -/
lemma Alike.perform (h : w.Alike w') (hop : op.Reordered op') :
    SameResult (w.perform zone op) (w'.perform zone op') := by
  cases hop with
  | pass now hperm hnodup hacyclic =>
      have hrules := RuleGraph.sameRules_of_perm hnodup hperm
      exact h.pass hrules now fun _ => (RuleGraph.evaluateAll_eq_of_sameRules hacyclic hrules).symm
  | same op =>
      cases op with
      | change f => exact ⟨⟨h.engine, congrArg f h.home⟩, .none⟩
      | pass rules now => exact h.pass (List.Perm.refl _) now fun _ => rfl
      | passFromText text now =>
          cases hset : RuleSet.ofText text with
          | ok set =>
              rw [perform_passFromText_of_ok hset, perform_passFromText_of_ok hset]
              exact h.pass (List.Perm.refl _) now fun _ => rfl
          | error e =>
              rw [perform_passFromText_of_error hset, perform_passFromText_of_error hset]
              exact ⟨h, .none⟩
      | clear =>
          obtain ⟨hregistry, hhours, hoffset, hboundary, -, -⟩ := h.engine
          exact ⟨⟨⟨hregistry, hhours, hoffset, hboundary, rfl, rfl⟩, h.home⟩, .none⟩

lemma Alike.trace (h : w.Alike w') (hops : List.Forall₂ Operation.Reordered ops ops') :
    List.Forall₂ SameResult (w.trace zone ops) (w'.trace zone ops') := by
  induction hops generalizing w w' with
  | nil => exact .nil
  | @cons op op' _ _ hop _ ih =>
      have hresult : SameResult (w.perform zone op) (w'.perform zone op') := h.perform hop
      exact .cons hresult (ih hresult.1)

/-- **The order of rules does not matter.** Let two runs of operations on an engine and its house,
with a clock that is pinned or with that of the host, differ only in the order in which the rules of
some passes are listed, and let these rules have distinct names and no loop. After every operation
the violations, the issues that are published and the house with all its annotations are the same,
and so are the numbers in the reports; the same violations are opened, cleared and dropped. -/
theorem trace_reordered (w : Watch) (zone : Zone) (ops ops' : List Operation)
    (hops : List.Forall₂ Operation.Reordered ops ops') :
    List.Forall₂ SameResult (w.trace zone ops) (w.trace zone ops') :=
  Alike.trace ⟨.refl w.engine, rfl⟩ hops

/-- The front door must not be open. -/
def frontRule : Rule :=
  { Rule.gate "Front" "OPEN equals yes" [] [] with sensorNames := NameSet.ofNames ["Hall"] }

/-- The house is safe as long as the front door is. -/
def safeRule : Rule :=
  .gate "Safe" "" ["Front"] []

/-- A house in which the front door is open. -/
def frontWatch : Watch where
  engine := .new .empty History.standardCapacity .previousHook .standard none
  home := Home.empty.insert ((Sensor.named "Hall").setField "OPEN" "yes")

/-- A pass, then the front door is closed, and another pass. -/
def frontRun (first second : List Rule) : List Operation :=
  [.pass first .epoch, .change fun h => (h.setField? "Hall" "OPEN" "no").getD h,
    .pass second .epoch]

/-- The two rules in one order and then in the other, or the other way round: the same violations
begin and end, in different orders. -/
theorem trace_reordered_front :
    List.Forall₂ Operation.Reordered (frontRun [frontRule, safeRule] [safeRule, frontRule])
      (frontRun [safeRule, frontRule] [frontRule, safeRule]) ∧
    List.Forall₂ SameResult
      (frontWatch.trace .utc (frontRun [frontRule, safeRule] [safeRule, frontRule]))
      (frontWatch.trace .utc (frontRun [safeRule, frontRule] [frontRule, safeRule])) ∧
    ((frontWatch.trace .utc (frontRun [frontRule, safeRule] [safeRule, frontRule])).filterMap
      fun x => x.2.map (·.outcome)) =
        [⟨["Front", "Safe"], [], []⟩, ⟨[], ["Safe", "Front"], []⟩] ∧
    ((frontWatch.trace .utc (frontRun [safeRule, frontRule] [frontRule, safeRule])).filterMap
      fun x => x.2.map (·.outcome)) =
        [⟨["Safe", "Front"], [], []⟩, ⟨[], ["Front", "Safe"], []⟩] := by
  have hone : Operation.Reordered (.pass [frontRule, safeRule] .epoch)
      (.pass [safeRule, frontRule] .epoch) :=
    .pass .epoch (.swap _ _ _) (by decide) (RuleGraph.acyclic_of_after (by decide))
  have hops : List.Forall₂ Operation.Reordered
      (frontRun [frontRule, safeRule] [safeRule, frontRule])
      (frontRun [safeRule, frontRule] [frontRule, safeRule]) :=
    .cons hone (.cons (.same _) (.cons hone.symm .nil))
  exact ⟨hops, trace_reordered frontWatch .utc _ _ hops, by decide +kernel, by decide +kernel⟩

end Watch

end SensorRules
