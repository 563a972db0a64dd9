import SensorRules.Proofs.Graph.Listing
import SensorRules.Proofs.Graph.Support
import SensorRules.Proofs.Graph.Valuation

/-!
The rules that are met by right, and when evaluation finds them in spite of loops.

* `RuleGraph.Grounded`: the least set of rules that are met with preconditions in the set;
  `RuleGraph.groundedVerdict`: the verdict on a rule if just the grounded rules are met;
* `RuleGraph.grounded_of_met`: a rule that is known to be met is grounded, so that every verdict
  that is reported is the grounded one or puts the rule's own sensors at fault;
* `RuleGraph.settles_grounded`: below a rule from which no grounded rule on a loop is reached, a
  loop is cut with the right answer, and so evaluations of the rule give its grounded verdict in any
  order;
* `RuleGraph.verdict_of_order`: what does not depend on the order of evaluation and of listing, and
  `RuleGraph.order_matters`: what does.
-/

namespace SensorRules

open Relation (ReflTransGen TransGen)

namespace RuleGraph

variable {g g' : RuleGraph} {setting : Setting} {σ : Nat → Nat} {i : Nat} {n : RuleNode}

/-! ### Grounded rules -/

/-- The least set of rules whose expressions are met and whose preconditions hold with rules in the
set. -/
inductive Grounded (g : RuleGraph) (setting : Setting) : Nat → Prop where
  /-- All preconditions must be met. -/
  | ofAll {i : Nat} {n : RuleNode} (hn : g.nodes[i]? = some n)
      (hok : (n.expression.judge setting n.rule.sensorNames).ok = true)
      (hall : ∀ j ∈ n.allOf, Grounded g setting j) (hnil : n.anyOf = []) : Grounded g setting i
  /-- One of the preconditions of the second kind must be met besides. -/
  | ofAny {i j : Nat} {n : RuleNode} (hn : g.nodes[i]? = some n)
      (hok : (n.expression.judge setting n.rule.sensorNames).ok = true)
      (hall : ∀ j ∈ n.allOf, Grounded g setting j) (hj : j ∈ n.anyOf)
      (hany : Grounded g setting j) : Grounded g setting i

lemma grounded_iff (hn : g.nodes[i]? = some n) : g.Grounded setting i ↔
    n.HoldsWith (g.Grounded setting) ∧
      (n.expression.judge setting n.rule.sensorNames).ok = true := by
  refine ⟨fun h => ?_, fun ⟨⟨hall, hany⟩, hok⟩ => ?_⟩
  · cases h with
    | ofAll hm hok hall hnil =>
        obtain rfl := Option.some.inj (hm.symm.trans hn)
        exact ⟨⟨hall, .inl hnil⟩, hok⟩
    | ofAny hm hok hall hj hany =>
        obtain rfl := Option.some.inj (hm.symm.trans hn)
        exact ⟨⟨hall, .inr ⟨_, hj, hany⟩⟩, hok⟩
  · rcases hany with hnil | ⟨j, hj, hany⟩
    · exact .ofAll hn hok hall hnil
    · exact .ofAny hn hok hall hj hany

lemma Grounded.exists_node (h : g.Grounded setting i) : ∃ n, g.nodes[i]? = some n := by
  cases h with
  | ofAll hn => exact ⟨_, hn⟩
  | ofAny hn => exact ⟨_, hn⟩

open Classical in
/-- The verdict on a rule if just the grounded rules are met. -/
noncomputable def groundedVerdict (g : RuleGraph) (setting : Setting) : Nat → Verdict :=
  g.verdictUnder setting fun j => decide (g.Grounded setting j)

lemma groundedVerdict_of_holds (hn : g.nodes[i]? = some n)
    (h : n.HoldsWith (g.Grounded setting)) :
    g.groundedVerdict setting i = n.expression.judge setting n.rule.sensorNames := by
  rw [groundedVerdict, verdictUnder_of_node hn]
  simp [nodeVerdict, h]

lemma groundedVerdict_of_not_holds (hn : g.nodes[i]? = some n)
    (h : ¬ n.HoldsWith (g.Grounded setting)) :
    g.groundedVerdict setting i = .violated n.rule.sensorNames := by
  rw [groundedVerdict, verdictUnder_of_node hn]
  simp [nodeVerdict, h]

/-- The grounded verdict says that a rule is met just if it is grounded. -/
lemma groundedVerdict_ok (i : Nat) :
    (g.groundedVerdict setting i).ok = true ↔ g.Grounded setting i := by
  cases hn : g.nodes[i]? with
  | none =>
      refine ⟨fun hok => ?_, fun h => ?_⟩
      · rw [groundedVerdict, verdictUnder_of_missing hn] at hok
        cases hok
      · obtain ⟨n, hn'⟩ := h.exists_node
        simp [hn] at hn'
  | some n =>
      rw [grounded_iff hn]
      by_cases h : n.HoldsWith (g.Grounded setting)
      · rw [groundedVerdict_of_holds hn h, and_iff_right h]
      · rw [groundedVerdict_of_not_holds hn h]
        simp [Verdict.violated, h]

/-! ### What is met is grounded -/

/-- A rule that is known to be met is grounded: the ranks of the rules that support it descend. -/
lemma grounded_of_met {c : Cache} {rank : Nat → Nat} (h : c.JustifiedBy g setting rank)
    (hmet : c.Met i) : g.Grounded setting i := by
  induction hr : rank i using Nat.strong_induction_on generalizing i with
  | _ r ih =>
      have hmet' := hmet
      obtain ⟨v, hv, -⟩ := hmet
      obtain ⟨n, hn, -⟩ := h i v hv
      obtain ⟨hholds, hok⟩ := h.of_met hmet' hn
      refine (grounded_iff hn).mpr ⟨hholds.mono fun j _ ⟨hj, hlt⟩ => ?_, hok⟩
      exact ih (rank j) (hr ▸ hlt) hj rfl

/-- What is known of a rule is its grounded verdict, or that its own sensors are at fault. -/
lemma known_cases {c : Cache} (h : c.Justified g setting) {v : Verdict}
    (hn : g.nodes[i]? = some n) (hv : c.known? i = some v) :
    v = .violated n.rule.sensorNames ∨ v = g.groundedVerdict setting i := by
  obtain ⟨-, rank, hrank⟩ := h
  obtain ⟨m, hm, hcases⟩ := hrank i v hv
  obtain rfl := Option.some.inj (hm.symm.trans hn)
  refine hcases.imp_right fun ⟨hjudge, hholds⟩ => ?_
  rw [hjudge, groundedVerdict_of_holds hm]
  exact hholds.mono fun j _ ⟨hj, _⟩ => grounded_of_met hrank hj

/-- A rule that must be met for itself is not grounded. -/
lemma Grounded.not_needsAll_self (h : g.Grounded setting i) : ¬ TransGen g.NeedsAll i i := by
  have next : ∀ {i : Nat} {n : RuleNode}, g.nodes[i]? = some n →
      (∀ j ∈ n.allOf, ¬ TransGen g.NeedsAll j j) → ¬ TransGen g.NeedsAll i i := by
    intro i n hn ih hloop
    obtain ⟨j, ⟨m, hm, hj⟩, hji⟩ := TransGen.head'_iff.mp hloop
    obtain rfl := Option.some.inj (hm.symm.trans hn)
    exact ih j hj (.tail' hji ⟨m, hm, hj⟩)
  induction h with
  | ofAll hn _ _ _ ih => exact next hn ih
  | ofAny hn _ _ _ _ ih _ => exact next hn ih

/-! ### When loops are cut with the right answer -/

/-- The evaluation of the rule with a name may reach position `k`. -/
def Reaches (g : RuleGraph) (name : String) (k : Nat) : Prop :=
  ∃ i, g.index? name = some i ∧ ReflTransGen g.Needs i k

/-- From the rule with a name no rule is reached that is on a loop and grounded. -/
def LoopsUnmet (g : RuleGraph) (setting : Setting) (name : String) : Prop :=
  ∀ k, g.Reaches name k → g.OnLoop k → ¬ g.Grounded setting k

open Classical in
/-- Below such a rule the grounded rules are a valuation that tells of no rule on a loop that it is
met. -/
lemma settles_grounded {name : String} (h : g.LoopsUnmet setting name) :
    g.Settles setting (g.Reaches name) fun j => decide (g.Grounded setting j) where
  closed _ _ := fun ⟨i, hidx, hij⟩ hjk => ⟨i, hidx, hij.tail hjk⟩
  ok_eq j _ := by
    rw [Bool.eq_iff_iff, decide_eq_true_eq]
    exact groundedVerdict_ok j
  loops j hj hloop := decide_eq_false (h j hj hloop)

lemma evaluate?_eq_grounded {name : String} (h : g.LoopsUnmet setting name)
    (earlier : List Query) :
    (g.evaluate? setting name (g.cacheAfter setting earlier)).map Prod.fst =
      (g.index? name).map (g.groundedVerdict setting) :=
  evaluate?_eq (settles_grounded h) (fun i hi => ⟨i, hi, .refl⟩) earlier

lemma evaluateAll_eq_grounded (distinct : g.Distinct) {name : String}
    (h : g.LoopsUnmet setting name) :
    (g.evaluateAll setting).1[name]? = (g.index? name).map (g.groundedVerdict setting) :=
  evaluateAll_eq (settles_grounded h) distinct fun i hi => ⟨i, hi, .refl⟩

/-! ### Other positions -/

namespace Relisted

lemma grounded (h : g.Relisted g' σ) (hi : g.Grounded setting i) : g'.Grounded setting (σ i) := by
  induction hi with
  | @ofAll i n hn hok _ hnil ih =>
      refine .ofAll (h.node i n hn) hok (fun j hj => ?_) (by simp [RuleNode.relabel, hnil])
      obtain ⟨k, hk, rfl⟩ := List.mem_map.mp hj
      exact ih k hk
  | @ofAny i j n hn hok _ hj _ ih ihj =>
      refine .ofAny (h.node i n hn) hok (fun j hj => ?_) (List.mem_map_of_mem hj) ihj
      obtain ⟨k, hk, rfl⟩ := List.mem_map.mp hj
      exact ih k hk

/-- A rule has its grounded verdict wherever it stands. -/
lemma groundedVerdict_eq (h : g.Relisted g' σ)
    (hback : ∀ j < g.size, g'.Grounded setting (σ j) → g.Grounded setting j) (hi : i < g.size) :
    g'.groundedVerdict setting (σ i) = g.groundedVerdict setting i := by
  obtain ⟨n, hn⟩ := exists_node hi
  have hiff : (n.relabel σ).HoldsWith (g'.Grounded setting) ↔ n.HoldsWith (g.Grounded setting) := by
    rw [RuleNode.relabel_holdsWith]
    refine RuleNode.holdsWith_congr fun j hj => ⟨hback j ?_, h.grounded⟩
    exact h.in_range i j (needs_of_mem hn hj)
  by_cases hholds : n.HoldsWith (g.Grounded setting)
  · rw [groundedVerdict_of_holds hn hholds,
      groundedVerdict_of_holds (h.node i n hn) (hiff.mpr hholds)]
    rfl
  · rw [groundedVerdict_of_not_holds hn hholds,
      groundedVerdict_of_not_holds (h.node i n hn) (mt hiff.mp hholds)]
    rfl

end Relisted

namespace SameRules

variable {rs rs' : List Rule}

lemma groundedVerdict_eq (h : (ofRules rs).SameRules (ofRules rs')) (hi : i < (ofRules rs).size) :
    (ofRules rs').groundedVerdict setting ((ofRules rs).placeIn (ofRules rs') i) =
      (ofRules rs).groundedVerdict setting i := by
  refine h.relisted.groundedVerdict_eq (fun j hj hgrounded => ?_) hi
  rw [← h.placeIn_placeIn hj]
  exact h.symm.relisted.grounded hgrounded

lemma loopsUnmet (h : (ofRules rs).SameRules (ofRules rs')) {name : String}
    (hunmet : (ofRules rs).LoopsUnmet setting name) : (ofRules rs').LoopsUnmet setting name := by
  rintro k ⟨i, hidx, hik⟩ hloop hk
  have hback := h.symm.relisted
  have hidx' : (ofRules rs).index? name = some ((ofRules rs').placeIn (ofRules rs) i) := by
    rw [h.symm.index?_eq, hidx, Option.map_some]
  have hik' := hik.lift ((ofRules rs').placeIn (ofRules rs)) fun _ _ hjk => hback.needs hjk
  exact hunmet _ ⟨_, hidx', hik'⟩ (hback.onLoop hloop) (hback.grounded hk)

end SameRules

/-! ### Orders -/

/-- **What does not depend on the order**: a rule that is evaluated alone has one verdict wherever
it is listed. If no grounded rule on a loop is reached from it, it has the same one after any
queries and among the verdicts on all rules, and this is its grounded verdict. In any case the
verdict that is reported of a rule is its grounded one, which does not depend on the listing, or
puts just its own sensors at fault. -/
theorem verdict_of_order (setting : Setting) {rs rs' : List Rule}
    (distinct : (rs.map Rule.name).Nodup) (perm : rs.Perm rs') (name : String) :
    let g := ofRules rs
    let g' := ofRules rs'
    let alone := (g.evaluate? setting name g.emptyCache).map Prod.fst
    (g'.evaluate? setting name g'.emptyCache).map Prod.fst = alone ∧
    (g.LoopsUnmet setting name →
      alone = (g.index? name).map (g.groundedVerdict setting) ∧
      (g'.evaluateAll setting).1[name]? = alone ∧
      ∀ earlier, (g'.evaluate? setting name (g'.cacheAfter setting earlier)).map Prod.fst = alone) ∧
    ∀ earlier q v, (g'.ask setting q (g'.cacheAfter setting earlier)).1[name]? = some v →
      ∃ i n, g.index? name = some i ∧ g.nodes[i]? = some n ∧
        (v = .violated n.rule.sensorNames ∨ v = g.groundedVerdict setting i) := by
  intro g g' alone
  have same : g.SameRules g' := sameRules_of_perm distinct perm
  have halone : (g'.evaluate? setting name g'.emptyCache).map Prod.fst = alone :=
    same.relisted.evaluate?_eq name
  refine ⟨halone, fun hunmet => ?_, fun earlier q v hv => ?_⟩
  · have hunmet' := same.loopsUnmet hunmet
    have hverdict : (g'.index? name).map (g'.groundedVerdict setting) = alone :=
      (evaluate?_eq_grounded hunmet' []).symm.trans halone
    refine ⟨evaluate?_eq_grounded hunmet [], ?_, fun earlier => ?_⟩
    · exact (evaluateAll_eq_grounded distinct_ofRules hunmet').trans hverdict
    · exact (evaluate?_eq_grounded hunmet' earlier).trans hverdict
  · -- What is reported was found by one evaluation, and was justified then.
    have hbefore : (g'.cacheAfter setting earlier).Justified g' setting :=
      justified_cacheAfter earlier
    obtain ⟨j, m, d, hm, rfl, hd, rfl, -⟩ :=
      exists_of_ask Cache.justified_empty justified_evaluateAt hbefore hv
    obtain ⟨hidx, n, hn, hrule⟩ := same.symm.placeIn_spec hm
    refine ⟨g'.placeIn g j, n, hidx, hn, ?_⟩
    rw [same.symm.groundedVerdict_eq (lt_size_of_node hm), hrule]
    exact known_cases (justified_evaluateAt j d hd) hm (known?_evaluateAt (lt_size_of_node hm) hd.1)

/-- The rule `gate` may go past a loop through rules that must all be met. -/
def pastLoop : List Rule :=
  [.gate "a" "" ["b"] [], .gate "b" "" ["a"] [], .gate "gate" "" [] ["a", "open"],
    .gate "open" "" [] []]

/-- The loop of `pastLoop` is never met. -/
lemma loopsUnmet_pastLoop : (ofRules pastLoop).LoopsUnmet .bare "gate" := by
  have edges : ∀ i ∈ List.range 4, ∀ j ∈ List.range 4, (ofRules pastLoop).Needs i j →
      (i, j) ∈ [(0, 1), (1, 0), (2, 0), (2, 3)] := by decide
  have edge : ∀ {i j}, (ofRules pastLoop).Needs i j →
      (i, j) ∈ [(0, 1), (1, 0), (2, 0), (2, 3)] := fun h =>
    edges _ (List.mem_range.mpr h.lt_size) _ (List.mem_range.mpr (lt_size_of_needs h)) h
  have h01 : (ofRules pastLoop).NeedsAll 0 1 := by decide
  have h10 : (ofRules pastLoop).NeedsAll 1 0 := by decide
  intro k _ hloop hk
  obtain ⟨_, hout, -⟩ := TransGen.head'_iff.mp hloop
  obtain ⟨_, -, hinto⟩ := TransGen.tail'_iff.mp hloop
  -- Only `a` and `b` are preconditions and have some.
  have hk01 : k = 0 ∨ k = 1 := by
    have hfrom := edge hout
    have hto := edge hinto
    simp only [List.mem_cons, Prod.mk.injEq, List.not_mem_nil, or_false] at hfrom hto
    omega
  rcases hk01 with rfl | rfl
  · exact hk.not_needsAll_self (.tail (.single h01) h10)
  · exact hk.not_needsAll_self (.tail (.single h10) h01)

theorem verdict_of_order_pastLoop :
    (pastLoop.map Rule.name).Nodup ∧ pastLoop.Perm pastLoop.reverse ∧
      (ofRules pastLoop).LoopsUnmet .bare "gate" ∧
      ((ofRules pastLoop.reverse).evaluateAll .bare).1["gate"]? =
        ((ofRules pastLoop).evaluate? .bare "gate" (ofRules pastLoop).emptyCache).map Prod.fst := by
  have distinct : (pastLoop.map Rule.name).Nodup := by decide
  have perm : pastLoop.Perm pastLoop.reverse := (List.reverse_perm _).symm
  refine ⟨distinct, perm, loopsUnmet_pastLoop, ?_⟩
  obtain ⟨-, hunmet, -⟩ := verdict_of_order .bare distinct perm "gate"
  exact (hunmet loopsUnmet_pastLoop).2.1

/-- The rule `b` may go round a loop through `a`, or past it. -/
def roundLoop : List Rule :=
  [.gate "b" "" [] ["a", "c"], .gate "a" "" ["b"] [], .gate "c" "" [] []]

/-- **The order matters on a loop that is met**: of `roundLoop` the rule `a` is met when it is
evaluated alone. Among the verdicts on all rules it is not, since `b` is evaluated before it, and
what is found of `a` on the way round the loop is kept. -/
theorem order_matters : ¬ ∀ (rs : List Rule) (setting : Setting) (name : String),
    (rs.map Rule.name).Nodup →
      ((ofRules rs).evaluateAll setting).1[name]? =
        ((ofRules rs).evaluate? setting name (ofRules rs).emptyCache).map Prod.fst := by
  intro h
  have hround := h roundLoop .bare "a" (by decide)
  revert hround
  decide

end RuleGraph

end SensorRules
