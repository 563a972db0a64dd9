import SensorRules.Proofs.Graph.Support
import SensorRules.Proofs.Verdict

/-!
The verdicts that are reported, loops or not.

* `RuleGraph.reported_cases`: whatever was asked before, the verdict that is reported of a rule is
  that on all of its sensors, or that of its expression on them;
* `RuleGraph.divides_of_reported`: so it divides the sensors of the rule, unless the rule asks
  something of the house.
-/

namespace SensorRules.RuleGraph

variable {rs : List Rule} {setting : Setting} {earlier : List Query} {q : Query} {i : Nat}
  {n : RuleNode} {v : Verdict}

/-- By a verdict that is reported of a rule, just its own sensors are at fault, or its expression
decides. -/
lemma reported_cases (hn : (ofRules rs).nodes[i]? = some n)
    (hv : ((ofRules rs).ask setting q ((ofRules rs).cacheAfter setting earlier)).1[n.name]? =
      some v) :
    v = .violated n.rule.sensorNames ∨ v = n.expression.judge setting n.rule.sensorNames := by
  obtain ⟨d, hd, rfl, -⟩ := distinct_ofRules.exists_of_ask hn Cache.justified_empty
    justified_evaluateAt (justified_cacheAfter earlier) hv
  obtain ⟨-, rank, hrank⟩ := justified_evaluateAt i d hd
  obtain ⟨m, hm, hcases⟩ := hrank i _ (known?_evaluateAt (lt_size_of_node hn) hd.1)
  obtain rfl := Option.some.inj (hm.symm.trans hn)
  exact hcases.imp_right And.left

lemma divides_of_reported (hn : (ofRules rs).nodes[i]? = some n)
    (hkind : n.kind ≠ .generalPredicate)
    (hv : ((ofRules rs).ask setting q ((ofRules rs).cacheAfter setting earlier)).1[n.name]? =
      some v) : v.Divides n.rule.sensorNames := by
  rcases reported_cases hn hv with rfl | rfl
  · exact Verdict.divides_violated
  · exact Expression.divides_judge hkind

end SensorRules.RuleGraph
