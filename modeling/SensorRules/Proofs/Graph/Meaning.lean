import SensorRules.Proofs.Graph.Listing
import SensorRules.Proofs.Graph.Valuation

/-!
The meaning of a graph without loops.

* `RuleGraph.meaning`: the verdict on a rule by plain recursion through its preconditions, with
  neither a cache nor a path nor an order of evaluation;
* `RuleGraph.settles_meaning`: the meaning is a valuation that agrees with its own verdicts;
* `RuleGraph.evaluations_eq_meaning`: so every evaluation gives the meaning, whatever was evaluated
  before and wherever the rules stand.
-/

namespace SensorRules

namespace RuleGraph

variable {g : RuleGraph} {setting : Setting} {acyclic : g.Acyclic}

/-- The verdict at a position by plain recursion: that of the expression if the preconditions hold,
by their own meaning, and otherwise that all sensors of the rule are at fault. -/
def meaning (g : RuleGraph) (setting : Setting) (acyclic : g.Acyclic) (i : Nat) : Verdict :=
  g.verdictUnder setting
    (fun j => if _ : g.Needs i j then (g.meaning setting acyclic j).ok else false) i
termination_by acyclic.wellFounded.wrap i

/-- The recursion without its guard: the meanings of other rules than the preconditions do not
count. -/
lemma meaning_eq (i : Nat) : g.meaning setting acyclic i =
    g.verdictUnder setting (fun j => (g.meaning setting acyclic j).ok) i := by
  rw [meaning]
  cases hn : g.nodes[i]? with
  | none => rw [verdictUnder_of_missing hn, verdictUnder_of_missing hn]
  | some n =>
      rw [verdictUnder_of_node hn, verdictUnder_of_node hn]
      refine congrArg (nodeVerdict setting n) (decide_eq_decide.mpr ?_)
      exact RuleNode.holdsWith_congr fun j hj => by rw [dif_pos (needs_of_mem hn hj)]

lemma meaning_of_node {i : Nat} {n : RuleNode} (hn : g.nodes[i]? = some n) :
    g.meaning setting acyclic i =
      if n.HoldsWith fun j => (g.meaning setting acyclic j).ok = true then
        n.expression.judge setting n.rule.sensorNames
      else .violated n.rule.sensorNames := by
  rw [meaning_eq, verdictUnder_of_node hn, nodeVerdict]
  simp only [decide_eq_true_eq]

/-- The meaning agrees with its own verdicts on all rules. -/
lemma settles_meaning (acyclic : g.Acyclic) :
    g.Settles setting (fun _ => True) fun i => (g.meaning setting acyclic i).ok where
  closed _ _ _ _ := trivial
  ok_eq i _ := congrArg Verdict.ok (meaning_eq i).symm
  loops i _ hi := absurd hi (acyclic i)

lemma verdictUnder_meaning (acyclic : g.Acyclic) :
    g.verdictUnder setting (fun i => (g.meaning setting acyclic i).ok) =
      g.meaning setting acyclic :=
  funext fun i => (meaning_eq i).symm

lemma evaluate?_eq_meaning (acyclic : g.Acyclic) (earlier : List Query) (name : String) :
    (g.evaluate? setting name (g.cacheAfter setting earlier)).map Prod.fst =
      (g.index? name).map (g.meaning setting acyclic) := by
  rw [evaluate?_eq (settles_meaning acyclic) (fun _ _ => trivial), verdictUnder_meaning]

lemma evaluateAll_eq_meaning (acyclic : g.Acyclic) (distinct : g.Distinct) (name : String) :
    (g.evaluateAll setting).1[name]? = (g.index? name).map (g.meaning setting acyclic) := by
  rw [evaluateAll_eq (settles_meaning acyclic) distinct (fun _ _ => trivial), verdictUnder_meaning]

/-- The verdicts on all rules do not depend on where the rules stand. -/
theorem evaluateAll_eq_of_sameRules {rs rs' : List Rule} (acyclic : (ofRules rs).Acyclic)
    (h : (ofRules rs).SameRules (ofRules rs')) :
    ((ofRules rs').evaluateAll setting).1 = ((ofRules rs).evaluateAll setting).1 := by
  have acyclic' : (ofRules rs').Acyclic := h.symm.relisted.acyclic acyclic
  refine Std.ExtTreeMap.ext_getElem? fun name => ?_
  calc ((ofRules rs').evaluateAll setting).1[name]?
      = ((ofRules rs').evaluate? setting name (ofRules rs').emptyCache).map Prod.fst := by
        rw [evaluateAll_eq_meaning acyclic' distinct_ofRules]
        exact (evaluate?_eq_meaning acyclic' [] name).symm
    _ = ((ofRules rs).evaluate? setting name (ofRules rs).emptyCache).map Prod.fst :=
        h.relisted.evaluate?_eq name
    _ = ((ofRules rs).evaluateAll setting).1[name]? := by
        rw [evaluateAll_eq_meaning acyclic distinct_ofRules]
        exact evaluate?_eq_meaning acyclic [] name

/-- **Evaluation is the meaning**: in a graph without loops, the verdicts on all rules at once are
their meanings, and so is every verdict on a single rule, whatever was asked before since the last
reset. The same rules at other positions have the same verdicts. -/
theorem evaluations_eq_meaning (rs : List Rule) (setting : Setting)
    (acyclic : (ofRules rs).Acyclic) :
    let g := ofRules rs
    let meaning := g.meaning setting acyclic
    (∀ i n, g.nodes[i]? = some n → meaning i =
      if n.HoldsWith fun j => (meaning j).ok = true then
        n.expression.judge setting n.rule.sensorNames
      else .violated n.rule.sensorNames) ∧
    (∀ name, (g.evaluateAll setting).1[name]? = (g.index? name).map meaning) ∧
    (∀ earlier name, (g.evaluate? setting name (g.cacheAfter setting earlier)).map Prod.fst =
      (g.index? name).map meaning) ∧
    ∀ rs', g.SameRules (ofRules rs') →
      ((ofRules rs').evaluateAll setting).1 = (g.evaluateAll setting).1 :=
  ⟨fun _ _ hn => meaning_of_node hn, evaluateAll_eq_meaning acyclic distinct_ofRules,
    evaluate?_eq_meaning acyclic, fun _ => evaluateAll_eq_of_sameRules acyclic⟩

/-- Two ways lead from the top to the base, one of them past a rule that is not met. -/
def diamond : List Rule :=
  [.gate "base" "" [] [], .gate "broken" "Predicate broken" [] [], .gate "left" "" ["base"] [],
    .gate "right" "" [] ["broken", "base"], .gate "top" "" ["left", "right"] [],
    .gate "stuck" "" ["left", "broken"] ["top"]]

lemma acyclic_diamond : (ofRules diamond).Acyclic :=
  acyclic_of_after (by decide)

theorem evaluations_eq_meaning_diamond :
    (ofRules diamond).Acyclic ∧
      ((ofRules diamond).evaluateAll .bare).1["top"]? = some .passed ∧
      ((ofRules diamond).evaluateAll .bare).1["stuck"]? = some (.violated ∅) ∧
      (ofRules diamond).meaning .bare acyclic_diamond 4 = .passed := by
  obtain ⟨-, hall, hone, -⟩ := evaluations_eq_meaning diamond .bare acyclic_diamond
  refine ⟨acyclic_diamond, by decide, by decide, ?_⟩
  have htop := (hone [.rule "stuck", .rule "left"] "top").symm.trans
    (by decide : _ = some Verdict.passed)
  have hidx : (ofRules diamond).index? "top" = some 4 := by decide
  rw [hidx] at htop
  exact Option.some.inj htop

end RuleGraph

end SensorRules
