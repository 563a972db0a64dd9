import Mathlib.Data.Prod.Lex
import Mathlib.Data.String.Basic
import SensorRules.Proofs.Engine.Publishing

/-!
The issues that a pass publishes, in their order.

* `Issue.rank` and `Issue.Before`: the most urgent issue comes first, and of several as urgent the
  one with the first name;
* `Issue.Shows`: an issue shows a violation by its rule;
* `Tracker.Lists`: a list of issues shows each violation that lasts just once, in this order;
* `Tracker.lists_issues`: such are the issues after every round, since whatever lasts has a rule in
  the graph;
* `Engine.issues_ranked`: so is what a pass publishes, whatever there was before it.
-/

namespace SensorRules

open Time (Instant Zone)

/-! ### The order of issues -/

namespace Issue

variable {a b : Issue}

/-- Priority and name, to be compared in this order. -/
def rank (i : Issue) : ℤ ×ₗ String :=
  toLex (i.priority, i.ruleName)

/-- The first issue is more urgent than the second, or as urgent and of an earlier name. -/
def Before (a b : Issue) : Prop :=
  a.priority < b.priority ∨ a.priority = b.priority ∧ a.ruleName < b.ruleName

lemma before_iff : a.Before b ↔ a.rank < b.rank := by
  rw [rank, rank, Prod.Lex.toLex_lt_toLex, Before]

lemma le_iff : a.le b = true ↔ a.rank ≤ b.rank := by
  rw [rank, rank, Prod.Lex.toLex_le_toLex, le]
  simp

/-- Issues of different names are never of one rank. -/
lemma before_of_le (h : a.le b = true) (hname : a.ruleName ≠ b.ruleName) : a.Before b := by
  refine before_iff.mpr (lt_of_le_of_ne (le_iff.mp h) fun heq => hname ?_)
  exact congrArg (fun r => (ofLex r).2) heq

/-- Issues that are sorted stand in the order of their ranks. -/
lemma pairwise_mergeSort (issues : List Issue) :
    (issues.mergeSort le).Pairwise fun a b => a.le b = true := by
  refine List.pairwise_mergeSort (fun a b c hab hbc => ?_) (fun a b => ?_) issues
  · exact le_iff.mpr ((le_iff.mp hab).trans (le_iff.mp hbc))
  · rw [Bool.or_eq_true, le_iff, le_iff]
    exact le_total a.rank b.rank

/-- The issue shows a violation, by the rule that is violated. -/
structure Shows (i : Issue) (r : Rule) (d : Violation) (now : Instant) : Prop where
  ruleName_eq : i.ruleName = r.name
  priority_eq : i.priority = r.priority
  viewPermissions_eq : i.viewPermissions = r.viewPermissions
  relatedLogs_eq : i.relatedLogs = r.relatedLogs
  since_eq : i.since = d.since
  violatedSensors_eq : i.violatedSensors = d.violatedSensors
  /-- Whole seconds, and none if the violation begins later. -/
  durationSecs_eq : (i.durationSecs : Int) = max 0 (now.secondsSince d.since)

end Issue

/-! ### The violations that last -/

namespace Tracker

variable {t : Tracker} {g : RuleGraph} {r : Round} {now : Instant} {d : Violation} {rule : Rule}

/-- The issues show just the violations that last, each once and by the rule of its name, the most
urgent first. -/
structure Lists (t : Tracker) (g : RuleGraph) (now : Instant) (issues : List Issue) : Prop where
  ranked : issues.Pairwise Issue.Before
  once : ∀ name, (issues.map Issue.ruleName).count name = if name ∈ t.records then 1 else 0
  shows : ∀ i ∈ issues, ∃ n d, g.node? i.ruleName = some n ∧ t.records[i.ruleName]? = some d ∧
    i.Shows n.rule d now

lemma shows_issue : (t.issue rule d now).Shows rule d now where
  ruleName_eq := rfl
  priority_eq := rfl
  viewPermissions_eq := rfl
  relatedLogs_eq := rfl
  since_eq := rfl
  violatedSensors_eq := rfl
  durationSecs_eq := by
    rw [max_comm]
    exact Int.toNat_eq_max _

/-- If the graph has a rule for every violation, the issues show them all. -/
lemma lists_issues_of_nodes (h : ∀ e ∈ t.records.toList, ∃ n, g.node? e.1 = some n) :
    t.Lists g now (t.issues g now) := by
  have hnames : ((t.issues g now).map Issue.ruleName).Perm t.records.keys := names_issues h
  have hnodup : ((t.issues g now).map Issue.ruleName).Nodup :=
    hnames.nodup_iff.mpr Std.ExtTreeMap.nodup_keys
  refine ⟨?ranked, fun name => ?once, fun i hi => ?shows⟩
  case ranked =>
    have hsorted : (t.issues g now).Pairwise fun a b => a.le b = true :=
      Issue.pairwise_mergeSort _
    exact hsorted.imp₂ (fun a b => Issue.before_of_le) (List.pairwise_map.mp hnodup)
  case once =>
    rw [hnodup.count]
    simp only [hnames.mem_iff, Std.ExtTreeMap.mem_keys]
  case shows =>
    obtain ⟨name, d, n, hd, hn, rfl⟩ := mem_issues.mp hi
    obtain rfl : n.name = name := RuleGraph.name_of_node? hn
    exact ⟨n, d, hn, hd, shows_issue⟩

/-- After a round the issues show all violations, since each that has lasted is of a rule in the
graph of this round. -/
lemma lists_issues : (t.follow r).Lists r.graph r.now ((t.follow r).issues r.graph r.now) := by
  refine lists_issues_of_nodes fun e he => ?_
  exact exists_node?_of_records_follow (Std.ExtTreeMap.mem_toList_iff_getElem?_eq_some.mp he)

end Tracker

/-! ### Passes -/

namespace Engine

lemma lists_runPass (e : Engine) (zone : Zone) (rules : List Rule) (home : Home) (now : Instant) :
    (e.runPass zone rules home now).engine.tracker.Lists (.ofRules rules) now
      (e.runPass zone rules home now).engine.published.issues :=
  Tracker.lists_issues (r := e.round zone rules home now)

/-- **The issues of a pass.** After a pass over any rules, whatever there was before, the issues
that are published stand in the order of their priorities and names, no two at one rank. There is
just one for each violation that lasts: with its beginning and its sensors, the priority, the
permissions and the logs of the rule of its name in this pass, and the whole seconds that it has
lasted. The report counts them, and the most urgent ones are the first of the list, as many as are
asked for or as there are. -/
theorem issues_ranked (e : Engine) (zone : Zone) (rules : List Rule) (home : Home)
    (now : Instant) :
    let graph := RuleGraph.ofRules rules
    let pass := e.runPass zone rules home now
    let records := pass.engine.tracker.records
    let issues := pass.engine.published.issues
    issues.Pairwise Issue.Before ∧
    (∀ name, (issues.map Issue.ruleName).count name = if name ∈ records then 1 else 0) ∧
    (∀ i ∈ issues, ∃ n d, graph.node? i.ruleName = some n ∧ n.rule ∈ rules ∧
      records[i.ruleName]? = some d ∧ i.Shows n.rule d now) ∧
    pass.report.violated = issues.length ∧
    ∀ k, pass.engine.published.topIssues k <+: issues ∧
      (pass.engine.published.topIssues k).length = min k issues.length := by
  intro graph pass records issues
  have hlists : pass.engine.tracker.Lists graph now issues := e.lists_runPass zone rules home now
  have hstep : pass.engine.InStep := inStep_runPass
  refine ⟨hlists.ranked, hlists.once, fun i hi => ?_, ?_, fun k => ⟨?_, ?_⟩⟩
  · obtain ⟨n, d, hn, hd, hshows⟩ := hlists.shows i hi
    exact ⟨n, d, hn, RuleGraph.rule_mem_of_mem (RuleGraph.mem_of_node? hn), hd, hshows⟩
  · calc records.size
        = records.keys.length := Std.ExtTreeMap.length_keys.symm
      _ = (issues.map Issue.ruleName).length := hstep.names.length_eq.symm
      _ = issues.length := List.length_map _
  · exact List.take_prefix k issues
  · exact List.length_take

end Engine

end SensorRules
