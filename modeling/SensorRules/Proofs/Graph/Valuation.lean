import SensorRules.Proofs.Graph.Session

/-!
When the verdicts that are found agree with a valuation, which tells of every rule whether it is
met.

* `RuleGraph.verdictUnder`: the verdict on a rule under a valuation;
* `RuleGraph.Settles`: on a set of rules that is closed under preconditions, the valuation is that
  of its own verdicts, and none of the rules on loops is met. A loop is then cut with the right
  answer;
* `RuleGraph.visit_agrees`: visits to such rules give the verdicts under the valuation, whatever is
  visited before;
* `RuleGraph.evaluateAt_eq`, `RuleGraph.evaluate?_eq` and `RuleGraph.evaluateAll_eq`: so do
  evaluations, in any order.
-/

namespace SensorRules

namespace RuleGraph

variable {g : RuleGraph} {setting : Setting} {S : Nat → Prop} {met : Nat → Bool} {c : Cache}
  {i : Nat} {n : RuleNode}

/-! ### Verdicts under a valuation -/

/-- The verdict at a position if `met` tells which rules are met. -/
def verdictUnder (g : RuleGraph) (setting : Setting) (met : Nat → Bool) (i : Nat) : Verdict :=
  match g.nodes[i]? with
  | some n => nodeVerdict setting n (decide (n.HoldsWith (met · = true)))
  | none => .violated ∅

lemma verdictUnder_of_node (hn : g.nodes[i]? = some n) :
    g.verdictUnder setting met i = nodeVerdict setting n (decide (n.HoldsWith (met · = true))) := by
  simp [verdictUnder, hn]

lemma verdictUnder_of_missing (hn : g.nodes[i]? = none) :
    g.verdictUnder setting met i = .violated ∅ := by
  simp [verdictUnder, hn]

/-- The positions in `S` have their preconditions in `S`, and there `met` tells of a rule just what
its verdict under `met` says; it tells of no rule on a loop that it is met. -/
structure Settles (g : RuleGraph) (setting : Setting) (S : Nat → Prop) (met : Nat → Bool) :
    Prop where
  closed : ∀ i j, S i → g.Needs i j → S j
  ok_eq : ∀ i, S i → (g.verdictUnder setting met i).ok = met i
  loops : ∀ i, S i → g.OnLoop i → met i = false

/-- What the cache knows of the rules in `S` is their verdicts under `met`. -/
def AgreesOn (g : RuleGraph) (setting : Setting) (S : Nat → Prop) (met : Nat → Bool) (c : Cache) :
    Prop :=
  ∀ i v, S i → c.known? i = some v → v = g.verdictUnder setting met i

lemma agreesOn_empty : g.AgreesOn setting S met g.emptyCache := by
  intro i v _ hv
  simp [known?_emptyCache] at hv

lemma AgreesOn.set (h : g.AgreesOn setting S met c) {v : Verdict}
    (hv : S i → v = g.verdictUnder setting met i) :
    g.AgreesOn setting S met (c.set i (some v)) := by
  intro k w hk hw
  rcases Cache.known?_set_cases hw with ⟨rfl, rfl⟩ | ⟨-, hw⟩
  · exact hv hk
  · exact h k w hk hw

/-! ### Visits -/

/-- A visit keeps the cache in agreement. To a rule in `S` it finds whether the rule is met, and the
verdict on it unless the rule is on the way already. Other rules may be visited before and on the
way, and nothing is said of them. -/
theorem visit_agrees (h : g.Settles setting S met) (depth : Nat) (path : List Nat) (i : Nat)
    (c : Cache) (hpath : g.IsPath path i) (hdepth : g.size < depth + path.length)
    (hc : g.AgreesOn setting S met c) :
    g.AgreesOn setting S met (g.visit setting depth path i c).2 ∧
      (S i → (g.visit setting depth path i c).1.ok = met i ∧
        (i ∉ path → (g.visit setting depth path i c).1 = g.verdictUnder setting met i)) := by
  revert hpath hdepth hc
  refine visit_induction (P := fun depth path i c r =>
    g.IsPath path i → g.size < depth + path.length → g.AgreesOn setting S met c →
      g.AgreesOn setting S met r.2 ∧
      (S i → r.1.ok = met i ∧ (i ∉ path → r.1 = g.verdictUnder setting met i)))
    ?loop ?known ?missing ?node depth path i c
  case loop =>
      rintro depth path i c (rfl | hi) hpath hdepth hc
      -- A path has no more positions than there are rules, so `depth` is not used up.
      · have := hpath.length_le
        omega
      · exact ⟨hc, fun hS => ⟨(h.loops i hS (hpath.onLoop_of_mem hi)).symm, absurd hi⟩⟩
  case known =>
      intro depth path i c v _ hv _ _ hc
      refine ⟨hc, fun hS => ?_⟩
      obtain rfl := hc i v hS hv
      exact ⟨h.ok_eq i hS, fun _ => rfl⟩
  case missing =>
      intro depth path i c _ _ hn _ _ hc
      have heq : Verdict.violated ∅ = g.verdictUnder setting met i :=
        (verdictUnder_of_missing hn).symm
      exact ⟨hc, fun hS => ⟨(congrArg Verdict.ok heq).trans (h.ok_eq i hS), fun _ => heq⟩⟩
  case node =>
      intro depth path i c n hi _ hn ih holds c' heq hpath hdepth hc
      -- The answers on preconditions in `S` are right, also where a loop is cut. If the rule is not
      -- in `S`, its own verdict does not matter.
      have htruthful : ∀ j, j ∈ n.allOf ∨ j ∈ n.anyOf →
          Truthful (g.visit setting depth (i :: path)) (g.AgreesOn setting S met)
            (fun j _ => S j → met j = true) (fun j => S j ∧ met j = true) j := by
        intro j hj
        have hvisit := fun d hd => ih j d (hpath.step hi (needs_of_mem hn hj))
          (by rw [List.length_cons]; omega) hd
        exact
          { inv := fun d hd => (hvisit d hd).1
            keeps := fun _ _ _ hk => hk
            met := fun d hd hok hS => ((hvisit d hd).2 hS).1.symm.trans hok
            unmet := fun d hd hok hm => by simp [((hvisit d hd).2 hm.1).1, hm.2] at hok }
      obtain ⟨hc', hyes, hno⟩ := preconditionsHold_spec htruthful hc
      rw [heq] at hc' hyes hno
      have hverdict : S i → nodeVerdict setting n holds = g.verdictUnder setting met i := by
        intro hS
        have hneeds : ∀ j, j ∈ n.allOf ∨ j ∈ n.anyOf → S j :=
          fun j hj => h.closed i j hS (needs_of_mem hn hj)
        have hholds : holds = decide (n.HoldsWith (met · = true)) := by
          cases holds with
          | true => exact (decide_eq_true ((hyes rfl).mono fun j hj hm => hm (hneeds j hj))).symm
          | false =>
              refine (decide_eq_false fun hn' => hno rfl ?_).symm
              exact hn'.mono fun j hj hm => ⟨hneeds j hj, hm⟩
        rw [verdictUnder_of_node hn, hholds]
      refine ⟨hc'.set hverdict, fun hS => ⟨?_, fun _ => hverdict hS⟩⟩
      rw [hverdict hS]
      exact h.ok_eq i hS

/-! ### Evaluations -/

lemma agreesOn_evaluateAt (h : g.Settles setting S met) (i : Nat) (c : Cache)
    (hc : g.AgreesOn setting S met c) : g.AgreesOn setting S met (g.evaluateAt setting i c).2 :=
  (visit_agrees h _ _ _ _ .nil (by simp) hc).1

lemma evaluateAt_eq (h : g.Settles setting S met) (hc : g.AgreesOn setting S met c) (hS : S i) :
    (g.evaluateAt setting i c).1 = g.verdictUnder setting met i :=
  ((visit_agrees h _ _ _ _ .nil (by simp) hc).2 hS).2 List.not_mem_nil

/-- After any queries, the verdict on a rule in `S` is that under the valuation. -/
theorem evaluate?_eq (h : g.Settles setting S met) {name : String}
    (hS : ∀ i, g.index? name = some i → S i) (earlier : List Query) :
    (g.evaluate? setting name (g.cacheAfter setting earlier)).map Prod.fst =
      (g.index? name).map (g.verdictUnder setting met) := by
  have hc : g.AgreesOn setting S met (g.cacheAfter setting earlier) :=
    cacheAfter_induction agreesOn_empty (agreesOn_evaluateAt h) earlier
  rw [evaluate?, Option.map_map]
  cases hidx : g.index? name with
  | none => rfl
  | some i => exact congrArg some (evaluateAt_eq h hc (hS i hidx))

/-- Among the verdicts on all rules, that on a rule in `S` is that under the valuation. -/
theorem evaluateAll_eq (h : g.Settles setting S met) (distinct : g.Distinct) {name : String}
    (hS : ∀ i, g.index? name = some i → S i) :
    (g.evaluateAll setting).1[name]? = (g.index? name).map (g.verdictUnder setting met) := by
  cases hidx : g.index? name with
  | none => exact getElem?_evaluateAll_of_index?_none hidx
  | some i =>
      obtain ⟨v, hmem, hv⟩ : ∃ v, _ ∧ (g.evaluateAll setting).1[name]? = some v :=
        distinct.exists_of_evaluateAll hidx
      obtain ⟨d, hd, rfl, -⟩ :=
        exists_of_mem_evaluateEach (agreesOn_evaluateAt h) agreesOn_empty hmem
      rw [hv, evaluateAt_eq h hd (hS i hidx), Option.map_some]

end RuleGraph

end SensorRules
