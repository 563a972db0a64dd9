import Mathlib.Data.Finset.Lattice.Fold
import SensorRules.Proofs.Graph.Building

/-!
Why a rule can be found met although loops are cut anywhere: whatever is known to be met rests on
rules that became known earlier.

* `Cache.JustifiedBy`: every verdict that is known is that on the sensors of a rule with
  preconditions that do not hold, or that of its expression, and then its preconditions hold with
  rules that are known to be met and have a lower rank;
* `RuleGraph.visit_justified`: a visit keeps this, the rank being the order in which verdicts become
  known;
* `RuleGraph.ask_supported`: so it holds after all that may be asked of a graph, and no rule that
  needs itself through rules that must all be met is ever met.
-/

namespace SensorRules

open Relation (TransGen)

variable {g : RuleGraph} {setting : Setting} {c : Cache} {i : Nat} {v : Verdict} {n : RuleNode}

/-! ### Ranks -/

namespace Cache

/-- Every verdict that is known is that on the sensors of a rule with preconditions that do not
hold, or that of its expression, and then its preconditions hold with rules that are known to be met
and have a lower rank. -/
def JustifiedBy (c : Cache) (g : RuleGraph) (setting : Setting) (rank : Nat → Nat) : Prop :=
  ∀ i v, c.known? i = some v → ∃ n, g.nodes[i]? = some n ∧
    (v = .violated n.rule.sensorNames ∨
      v = n.expression.judge setting n.rule.sensorNames ∧
        n.HoldsWith fun j => c.Met j ∧ rank j < rank i)

/-- The cache has a place for each rule, and a rank by which its verdicts are justified. -/
def Justified (c : Cache) (g : RuleGraph) (setting : Setting) : Prop :=
  c.length = g.size ∧ ∃ rank, c.JustifiedBy g setting rank

lemma justified_empty : g.emptyCache.Justified g setting :=
  ⟨RuleGraph.length_emptyCache, fun _ => 0,
    fun i v hv => by simp [RuleGraph.known?_emptyCache] at hv⟩

lemma Met.ne_of_unknown {j : Nat} (hj : c.Met j) (hnone : c.known? i = none) : i ≠ j := by
  rintro rfl
  obtain ⟨w, hw, -⟩ := hj
  simp [hnone] at hw

lemma Met.set {j : Nat} (hj : c.Met j) (hne : i ≠ j) : Met (c.set i (some v)) j := by
  obtain ⟨w, hw, hok⟩ := hj
  exact ⟨w, by rw [known?_set_of_ne hne, hw], hok⟩

/-- A verdict that is new is justified if the preconditions of its rule hold with what is known
before: its rank is above all others. -/
lemma Justified.set (h : c.Justified g setting) (hnone : c.known? i = none)
    (hn : g.nodes[i]? = some n)
    (hv : v = .violated n.rule.sensorNames ∨
      v = n.expression.judge setting n.rule.sensorNames ∧ n.HoldsWith c.Met) :
    Justified (c.set i (some v)) g setting := by
  obtain ⟨hlength, rank, hrank⟩ := h
  refine ⟨by rw [List.length_set, hlength],
    Function.update rank i ((Finset.range g.size).sup rank + 1), ?_⟩
  intro k w hw
  rcases known?_set_cases hw with ⟨rfl, rfl⟩ | ⟨hki, hk⟩
  · refine ⟨n, hn, hv.imp_right fun ⟨hjudge, hholds⟩ => ⟨hjudge, hholds.mono fun j _ hj => ?_⟩⟩
    have hne := hj.ne_of_unknown hnone
    have hlt : j < g.size := by
      obtain ⟨u, hu, -⟩ := hj
      exact hlength ▸ lt_length_of_known hu
    refine ⟨hj.set hne, ?_⟩
    rw [Function.update_of_ne hne.symm, Function.update_self, Nat.lt_succ_iff]
    exact Finset.le_sup (f := rank) (Finset.mem_range.mpr hlt)
  · obtain ⟨m, hm, hcases⟩ := hrank k w hk
    refine ⟨m, hm, hcases.imp_right fun ⟨hjudge, hholds⟩ =>
      ⟨hjudge, hholds.mono fun j _ ⟨hj, hlt⟩ => ?_⟩⟩
    have hne := hj.ne_of_unknown hnone
    refine ⟨hj.set hne, ?_⟩
    rw [Function.update_of_ne hne.symm, Function.update_of_ne hki]
    exact hlt

/-- A rule that is known to be met has an expression that says so, and preconditions that hold with
rules of a lower rank. -/
lemma JustifiedBy.of_met {rank : Nat → Nat} (h : c.JustifiedBy g setting rank) (hi : c.Met i)
    (hn : g.nodes[i]? = some n) :
    (n.HoldsWith fun j => c.Met j ∧ rank j < rank i) ∧
      (n.expression.judge setting n.rule.sensorNames).ok = true := by
  obtain ⟨v, hv, hok⟩ := hi
  obtain ⟨m, hm, hcases⟩ := h i v hv
  obtain rfl : m = n := Option.some.inj (hm.symm.trans hn)
  rcases hcases with rfl | ⟨rfl, hholds⟩
  · simp [Verdict.violated] at hok
  · exact ⟨hholds, hok⟩

/-- Whatever must be met for a rule that is met has a lower rank than the rule. -/
lemma JustifiedBy.lt_of_needsAll {rank : Nat → Nat} (h : c.JustifiedBy g setting rank) {j : Nat}
    (hij : TransGen g.NeedsAll i j) (hi : c.Met i) : c.Met j ∧ rank j < rank i := by
  induction hij with
  | single hstep =>
      obtain ⟨n, hn, hj⟩ := hstep
      exact (h.of_met hi hn).1.1 _ hj
  | tail _ hstep ih =>
      obtain ⟨n, hn, hj⟩ := hstep
      obtain ⟨hmet, hlt⟩ := (h.of_met ih.1 hn).1.1 _ hj
      exact ⟨hmet, hlt.trans ih.2⟩

/-- A rule that must be met for itself is at fault with just its own sensors. -/
lemma JustifiedBy.eq_violated_of_needsAll {rank : Nat → Nat} (h : c.JustifiedBy g setting rank)
    (hloop : TransGen g.NeedsAll i i) (hn : g.nodes[i]? = some n) (hv : c.known? i = some v) :
    v = .violated n.rule.sensorNames := by
  obtain ⟨m, hm, hcases⟩ := h i v hv
  obtain rfl : m = n := Option.some.inj (hm.symm.trans hn)
  rcases hcases with rfl | ⟨-, hholds⟩
  · rfl
  · -- the next rule on the loop is met, and lies on the loop as well
    obtain ⟨j, ⟨m', hm', hj⟩, hji⟩ := TransGen.head'_iff.mp hloop
    obtain rfl : m' = m := Option.some.inj (hm'.symm.trans hm)
    have hjj : TransGen g.NeedsAll j j := .tail' hji ⟨m', hm', hj⟩
    exact absurd (h.lt_of_needsAll hjj (hholds.1 j hj).1).2 (lt_irrefl _)

end Cache

namespace RuleGraph

/-! ### Visits and queries -/

/-- A visit keeps all verdicts justified, and a rule that it finds met is known to be so. -/
theorem visit_justified (depth : Nat) (path : List Nat) (i : Nat) (c : Cache)
    (h : c.Justified g setting) :
    (g.visit setting depth path i c).2.Justified g setting ∧
      ((g.visit setting depth path i c).1.ok = true →
        (g.visit setting depth path i c).2.Met i) := by
  revert h
  refine visit_induction (P := fun _ _ i c r =>
    c.Justified g setting → r.2.Justified g setting ∧ (r.1.ok = true → r.2.Met i))
    ?loop ?known ?missing ?node depth path i c
  case loop => exact fun _ _ _ _ _ h => ⟨h, by simp [loopVerdict, Verdict.violated]⟩
  case known => exact fun _ _ _ _ v _ hv h => ⟨h, fun hok => ⟨v, hv, hok⟩⟩
  case missing => exact fun _ _ _ _ _ _ _ h => ⟨h, by simp [Verdict.violated]⟩
  case node =>
      intro depth path i c n hi hnone hn ih holds c' heq h
      -- The rule is on the way to its preconditions, so nothing is known of it yet when they are.
      have htruthful : ∀ j, j ∈ n.allOf ∨ j ∈ n.anyOf →
          Truthful (g.visit setting depth (i :: path))
            (fun d => d.Justified g setting ∧ Cache.Extends (i :: path) c d)
            (fun j d => d.Met j) (fun _ => False) j := fun j _ =>
        { inv := fun d hd => ⟨(ih j d hd.1).1, hd.2.trans (visit_extends _ _ _ _)⟩
          keeps := fun d _ k hk => (visit_extends _ _ _ _).met hk
          met := fun d hd => (ih j d hd.1).2
          unmet := fun _ _ _ => not_false }
      obtain ⟨⟨hjustified, hext⟩, hholds, -⟩ := preconditionsHold_spec htruthful ⟨h, .refl⟩
      rw [heq] at hjustified hext hholds
      have hnone' : c'.known? i = none := by rw [hext.on_path i List.mem_cons_self, hnone]
      refine ⟨hjustified.set hnone' hn ?_, fun hok => ⟨_, Cache.known?_set_self ?_, hok⟩⟩
      · cases holds with
        | true => exact .inr ⟨rfl, hholds rfl⟩
        | false => exact .inl rfl
      · rw [hjustified.1]
        exact lt_size_of_node hn

lemma justified_evaluateAt (i : Nat) (c : Cache) (h : c.Justified g setting) :
    (g.evaluateAt setting i c).2.Justified g setting :=
  (visit_justified _ _ _ _ h).1

lemma justified_cacheAfter (queries : List Query) :
    (g.cacheAfter setting queries).Justified g setting :=
  cacheAfter_induction Cache.justified_empty justified_evaluateAt queries

/-- **Support**: after any queries to a graph there is a rank that witnesses how the rules known to
be met support each other. Each of them has an expression that is met and preconditions that hold
with rules known to be met of a lower rank, so that none is met through a chain that leads back to
it. The verdicts that are reported are the ones that are known, and a rule that must be met for
itself is at fault with just its own sensors. -/
theorem ask_supported (rs : List Rule) (setting : Setting) (earlier : List Query) (q : Query) :
    let g := ofRules rs
    let reported := (g.ask setting q (g.cacheAfter setting earlier)).1
    let cache := (g.ask setting q (g.cacheAfter setting earlier)).2
    ∃ rank : Nat → Nat, ∀ i n, g.nodes[i]? = some n →
      (cache.Met i →
        (∀ j ∈ n.allOf, cache.Met j ∧ rank j < rank i) ∧
          (n.anyOf = [] ∨ ∃ j ∈ n.anyOf, cache.Met j ∧ rank j < rank i) ∧
          (n.expression.judge setting n.rule.sensorNames).ok = true) ∧
      (q = .rule n.name ∨ q = .all → ∃ v, reported[n.name]? = some v) ∧
      ∀ v, reported[n.name]? = some v → cache.known? i = some v ∧
        (TransGen g.NeedsAll i i →
          v.ok = false ∧ v.okSensors = ∅ ∧ v.violatedSensors = n.rule.sensorNames) := by
  intro g reported cache
  have hbefore : (g.cacheAfter setting earlier).Justified g setting := justified_cacheAfter earlier
  obtain ⟨-, rank, hrank⟩ : cache.Justified g setting :=
    ask_keeps Cache.justified_empty justified_evaluateAt hbefore q
  refine ⟨rank, fun i n hn => ⟨fun hmet => ?_, fun hq => ?_, fun v hv => ?_⟩⟩
  · obtain ⟨⟨hall, hany⟩, hok⟩ := hrank.of_met hmet hn
    exact ⟨hall, hany, hok⟩
  · exact distinct_ofRules.exists_report hn hq _
  · obtain ⟨d, hd, rfl, hext⟩ :=
      distinct_ofRules.exists_of_ask hn Cache.justified_empty justified_evaluateAt hbefore hv
    have hknown := hext.known _ _ (known?_evaluateAt (lt_size_of_node hn) hd.1)
    refine ⟨hknown, fun hloop => ?_⟩
    rw [hrank.eq_violated_of_needsAll hloop hn hknown]
    exact ⟨rfl, rfl, rfl⟩

end RuleGraph

end SensorRules
