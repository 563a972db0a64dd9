import SensorRules.Proofs.Graph.Ledger
import SensorRules.Proofs.Verdict

/-!
Whose sensors a verdict puts at fault.

A rule that is met again on its own way is not met there, and all sensors of the way are put at
fault. Nobody ever sees them: of this verdict only counts that the rule is not met.

* `RuleNode.Divides`: what the verdict on a rule says of the sensors of this rule, and of no others;
  `RuleNode.divides_nodeVerdict`: so do the verdicts that are found of a rule and kept;
* `Cache.Judged` and `RuleGraph.visit_judged`: only such verdicts are ever kept;
* `RuleGraph.visitBlaming`: a visit that puts any other sensors at fault where it meets a loop;
  `RuleGraph.visitBlaming_spec`: it has the same effect, and from outside a loop the same verdict;
* `RuleGraph.blames_own_sensors`: so whatever is asked of a graph, and in whatever settings, the
  verdicts that are reported and kept are of a rule's own sensors.
-/

namespace SensorRules

/-! ### The verdict on one rule -/

/-- What a verdict on a rule says of sensors, if `holds` tells whether the preconditions of the rule
hold. -/
structure RuleNode.Divides (n : RuleNode) (holds : Bool) (v : Verdict) : Prop where
  /-- It speaks of the sensors of the rule only. -/
  own : ∀ s, s ∈ v.okSensors ∨ s ∈ v.violatedSensors → s ∈ n.rule.sensorNames
  disjoint : ∀ s ∈ v.okSensors, s ∉ v.violatedSensors
  none_violated : v.ok = true → v.violatedSensors = ∅
  /-- If the house has answered that the rule is not met, it speaks of no sensors. -/
  denied : v.ok = false → holds = true ∧ n.kind = .generalPredicate →
    v.okSensors = ∅ ∧ v.violatedSensors = ∅
  /-- If the rule is not met for another reason, it speaks of all of them. -/
  all_divided : v.ok = false → ¬ (holds = true ∧ n.kind = .generalPredicate) →
    v.okSensors.union v.violatedSensors = n.rule.sensorNames

variable {n : RuleNode} {setting : Setting} {holds : Bool} {v : Verdict} {c : Cache} {i : Nat}

/-- A question to the house leaves the sensors out. -/
lemma Expression.judge_of_general {e : Expression} (h : e.kind = .generalPredicate)
    (setting : Setting) (names : NameSet) :
    e.judge setting names = .passed ∨ e.judge setting names = .violated ∅ := by
  cases e with
  | generalCall call =>
      rw [judge]
      split
      next answer _ => cases answer != call.negated <;> simp
      next => exact .inr rfl
  | aggregate => cases h
  | numeric field op negated literal => cases h
  | textual field test negated literal => cases h
  | sensorCall call => cases h

namespace RuleNode

lemma Divides.of_divides (h : v.Divides n.rule.sensorNames)
    (hask : ¬ (holds = true ∧ n.kind = .generalPredicate)) : n.Divides holds v where
  own s hs := hs.elim (h.mem_of_ok s) (h.mem_of_violated s)
  disjoint := h.disjoint
  none_violated := h.none_violated
  denied _ hdenied := absurd hdenied hask
  all_divided hok _ := h.union_eq hok

lemma divides_passed : n.Divides holds .passed where
  own s hs := by simp [Verdict.passed] at hs
  disjoint s hs := by simp [Verdict.passed] at hs
  none_violated _ := rfl
  denied hok := by simp [Verdict.passed] at hok
  all_divided hok := by simp [Verdict.passed] at hok

lemma divides_denied (h : holds = true ∧ n.kind = .generalPredicate) :
    n.Divides holds (.violated ∅) where
  own s hs := by simp [Verdict.violated] at hs
  disjoint s hs := by simp [Verdict.violated] at hs
  none_violated _ := rfl
  denied _ _ := ⟨rfl, rfl⟩
  all_divided _ hask := absurd h hask

/-- The verdict on a rule whose preconditions have been looked at is of its own sensors. -/
lemma divides_nodeVerdict (setting : Setting) (n : RuleNode) (holds : Bool) :
    n.Divides holds (RuleGraph.nodeVerdict setting n holds) := by
  by_cases hask : holds = true ∧ n.kind = .generalPredicate
  · rw [RuleGraph.nodeVerdict, if_pos hask.1]
    rcases Expression.judge_of_general hask.2 setting n.rule.sensorNames with heq | heq
    · exact heq ▸ divides_passed
    · exact heq ▸ divides_denied hask
  · refine .of_divides ?_ hask
    rw [RuleGraph.nodeVerdict]
    split
    next hholds => exact Expression.divides_judge fun hkind => hask ⟨hholds, hkind⟩
    next => exact Verdict.divides_violated

end RuleNode

/-! ### The verdicts that are kept -/

namespace Cache

variable {g : RuleGraph} {S : Setting → Prop}

/-- Every verdict that is known was found of the rule at its place, in one of the settings. -/
def Judged (c : Cache) (g : RuleGraph) (S : Setting → Prop) : Prop :=
  ∀ i v, c.known? i = some v → ∃ n setting holds, g.nodes[i]? = some n ∧ S setting ∧
    v = RuleGraph.nodeVerdict setting n holds

lemma judged_empty : g.emptyCache.Judged g S := by
  intro i v hv
  simp [RuleGraph.known?_emptyCache] at hv

lemma Judged.set (h : c.Judged g S) (hn : g.nodes[i]? = some n) (hsetting : S setting) :
    Judged (c.set i (some (RuleGraph.nodeVerdict setting n holds))) g S := by
  intro k w hw
  rcases known?_set_cases hw with ⟨rfl, rfl⟩ | ⟨-, hw⟩
  · exact ⟨n, setting, holds, hn, hsetting, rfl⟩
  · exact h k w hw

end Cache

namespace RuleGraph

variable {g : RuleGraph} {S : Setting → Prop} {session : List (Setting × Query)}

/-- A visit only keeps verdicts that are found of a rule. -/
theorem visit_judged (hsetting : S setting) (depth : Nat) (path : List Nat) (i : Nat) (c : Cache)
    (h : c.Judged g S) : (g.visit setting depth path i c).2.Judged g S := by
  revert h
  refine visit_induction (P := fun _ _ _ c r => c.Judged g S → r.2.Judged g S)
    ?loop ?known ?missing ?node depth path i c
  case loop => exact fun _ _ _ _ _ h => h
  case known => exact fun _ _ _ _ _ _ _ h => h
  case missing => exact fun _ _ _ _ _ _ _ h => h
  case node =>
      intro depth path i c n _ _ hn ih holds c' heq h
      -- Only what is kept counts here, and nothing is asked of the verdicts on the way.
      have htruthful : ∀ j, j ∈ n.allOf ∨ j ∈ n.anyOf →
          Truthful (g.visit setting depth (i :: path)) (fun d => d.Judged g S) (fun _ _ => True)
            (fun _ => False) j :=
        fun j _ => ⟨fun d hd => ih j d hd, by simp, by simp, by simp⟩
      have hjudged := (preconditionsHold_spec htruthful h).1
      rw [heq] at hjudged
      exact hjudged.set hn hsetting

/-- What every evaluation in a setting of the session keeps holds after the session. -/
lemma cacheAcross_induction {I : Cache → Prop} (h0 : I g.emptyCache)
    (h : ∀ e ∈ session, ∀ i c, I c → I (g.evaluateAt e.1 i c).2) : I (g.cacheAcross session) := by
  induction session using List.reverseRecOn with
  | nil => exact h0
  | append_singleton session q ih =>
      rw [cacheAcross_concat]
      refine ask_keeps h0 (h q (by simp)) (ih fun e he => h e ?_) q.2
      exact List.mem_append_left [q] he

lemma judged_cacheAcross :
    (g.cacheAcross session).Judged g fun setting => setting ∈ session.map Prod.fst :=
  cacheAcross_induction Cache.judged_empty fun _ he i c =>
    visit_judged (List.mem_map_of_mem he) _ _ i c

/-! ### Loops -/

/-- A visit that puts any sensors at fault where it meets a loop. -/
def visitBlaming (g : RuleGraph) (blame : List Nat → Nat → NameSet) (setting : Setting) :
    (depth : Nat) → (path : List Nat) → Nat → Cache → Verdict × Cache
  | 0, path, i, cache => (.violated (blame path i), cache)
  | depth + 1, path, i, cache =>
    if path.contains i then (.violated (blame path i), cache)
    else
      match cache.known? i, g.nodes[i]? with
      | some v, _ => (v, cache)
      | none, none => (.violated ∅, cache)
      | none, some n =>
        let (holds, cache) :=
          preconditionsHold (g.visitBlaming blame setting depth (i :: path)) n cache
        let v := nodeVerdict setting n holds
        (v, cache.set i (some v))

section Loops

variable {visit visit' : Nat → Cache → Verdict × Cache} {blame : List Nat → Nat → NameSet}

/-- Of the visits to preconditions only counts whether the rules are met, and what is known
afterwards. -/
lemma preconditionsHold_congr
    (h : ∀ j c, (visit j c).1.ok = (visit' j c).1.ok ∧ (visit j c).2 = (visit' j c).2) :
    preconditionsHold visit n c = preconditionsHold visit' n c := by
  have hall : ∀ js c, allHold visit js c = allHold visit' js c := by
    intro js
    induction js with
    | nil => exact fun c => rfl
    | cons j js ih =>
        exact fun c => by rw [allHold_cons, allHold_cons, (h j c).1, (h j c).2, ih]
  have hsome : ∀ js c, someHolds visit js c = someHolds visit' js c := by
    intro js
    induction js with
    | nil => exact fun c => rfl
    | cons j js ih =>
        exact fun c => by rw [someHolds_cons, someHolds_cons, (h j c).1, (h j c).2, ih]
  rw [preconditionsHold_eq, preconditionsHold_eq, hall, hsome]

/-- Whatever a loop is blamed on, a visit finds the rule met or not just so and leaves the same
behind. Unless it meets a loop itself, it also has the same verdict. -/
lemma visitBlaming_spec (depth : Nat) (path : List Nat) (i : Nat) (c : Cache) :
    ((g.visitBlaming blame setting depth path i c).1.ok = (g.visit setting depth path i c).1.ok ∧
      (g.visitBlaming blame setting depth path i c).2 = (g.visit setting depth path i c).2) ∧
    (depth ≠ 0 → i ∉ path →
      g.visitBlaming blame setting depth path i c = g.visit setting depth path i c) := by
  induction depth generalizing path i c with
  | zero => exact ⟨⟨rfl, rfl⟩, fun h => absurd rfl h⟩
  | succ depth ih =>
      by_cases hi : i ∈ path
      · rw [visit_of_mem hi, visitBlaming, if_pos (List.contains_iff_mem.mpr hi)]
        exact ⟨⟨rfl, rfl⟩, fun _ hi' => absurd hi hi'⟩
      · have heq : g.visitBlaming blame setting (depth + 1) path i c =
            g.visit setting (depth + 1) path i c := by
          have hlook : ∀ n, preconditionsHold (g.visitBlaming blame setting depth (i :: path)) n c =
              preconditionsHold (g.visit setting depth (i :: path)) n c :=
            fun n => preconditionsHold_congr fun j d => (ih (i :: path) j d).1
          have hoff : ¬ path.contains i = true := fun hmem => hi (List.contains_iff_mem.mp hmem)
          rw [visitBlaming, visit, if_neg hoff, if_neg hoff]
          cases c.known? i with
          | some v => rfl
          | none =>
              cases g.nodes[i]? with
              | none => rfl
              | some n => simp only [hlook n]
        rw [heq]
        exact ⟨⟨rfl, rfl⟩, fun _ _ => rfl⟩

end Loops

/-! ### Queries -/

/-- **Rules are blamed on their own sensors.** Let anything be asked of a graph that is built, in
whatever settings and order, loops or not. A verdict that is reported is one that is kept at the
place of the rule. Each verdict that is kept was found of the rule at its place, in one of the
settings, and speaks of the sensors of this rule only. It makes no difference, neither to what is
reported nor to what is kept, which sensors are put at fault where a loop is met. -/
theorem blames_own_sensors (rs : List Rule) (session : List (Setting × Query))
    (q : Setting × Query) :
    let g := ofRules rs
    let reported := (g.ask q.1 q.2 (g.cacheAcross session)).1
    let cache := g.cacheAcross (session ++ [q])
    (∀ name v, reported[name]? = some v →
      ∃ i n, g.nodes[i]? = some n ∧ n.name = name ∧ cache.known? i = some v) ∧
    (∀ i v, cache.known? i = some v → ∃ n setting holds, g.nodes[i]? = some n ∧
      setting ∈ (session ++ [q]).map Prod.fst ∧ v = nodeVerdict setting n holds ∧
      n.Divides holds v) ∧
    ∀ blame setting i c,
      g.visitBlaming blame setting (g.size + 1) [] i c = g.evaluateAt setting i c := by
  intro g reported cache
  have hlength : (g.cacheAcross session).length = g.size :=
    cacheAcross_induction (I := fun c => c.length = g.size) length_emptyCache
      fun _ _ _ _ hc => evaluateAt_extends.length_eq.trans hc
  refine ⟨fun name v hv => ?reported, fun i v hv => ?kept, fun blame setting i c => ?loops⟩
  case reported =>
    obtain ⟨i, hidx, hknown⟩ := distinct_ofRules.known?_of_ask hlength hv
    obtain ⟨n, hn, hname⟩ := node_of_index? hidx
    exact ⟨i, n, hn, hname, by rw [← hknown, ← cacheAcross_concat]⟩
  case kept =>
    obtain ⟨n, setting, holds, hn, hsetting, rfl⟩ := judged_cacheAcross i v hv
    exact ⟨n, setting, holds, hn, hsetting, rfl, n.divides_nodeVerdict setting holds⟩
  case loops =>
    exact (visitBlaming_spec (g.size + 1) [] i c).2 (Nat.succ_ne_zero _) List.not_mem_nil

end RuleGraph

end SensorRules
