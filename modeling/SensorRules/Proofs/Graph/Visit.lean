import Mathlib.Tactic.Lemma
import SensorRules.Graph.Evaluation
import SensorRules.Proofs.Graph.Dependency

/-!
What a visit to a rule does to the cache.

* `Cache.Extends`: what is known stays known, and nothing new is known about the rules on the way;
  `RuleGraph.visit_extends`: a visit extends the cache so.
* `RuleGraph.Truthful` and `RuleGraph.preconditionsHold_spec`: if every visit to a precondition
  keeps an invariant and finds out whether the precondition is met, then so does the look at all of
  them.
* `RuleGraph.visit_induction`: the four ways in which a visit can end.
* `RuleGraph.known?_visit`: the verdict of a visit that is no loop is known afterwards.
-/

namespace SensorRules

/-! ### What a cache knows -/

namespace Cache

variable {c c' c'' : Cache} {i j : Nat} {v w : Verdict} {path : List Nat}

/-- The rule at a position is known to be met. -/
def Met (c : Cache) (i : Nat) : Prop :=
  ∃ v, c.known? i = some v ∧ v.ok = true

lemma lt_length_of_known (h : c.known? i = some v) : i < c.length := by
  rw [known?, Option.join_eq_some_iff] at h
  exact (List.getElem?_eq_some_iff.mp h).1

lemma known?_set_self (h : i < c.length) : known? (c.set i (some v)) i = some v := by
  rw [known?, List.getElem?_set_self h, Option.join_some]

lemma known?_set_of_ne (h : i ≠ j) : known? (c.set i (some v)) j = c.known? j := by
  rw [known?, List.getElem?_set_ne h, known?]

/-- What is known after a verdict is entered is this verdict, or was known before. -/
lemma known?_set_cases (h : known? (c.set i (some v)) j = some w) :
    j = i ∧ w = v ∨ j ≠ i ∧ c.known? j = some w := by
  by_cases hij : i = j
  · subst hij
    have hi : i < c.length := by simpa using lt_length_of_known h
    rw [known?_set_self hi] at h
    exact .inl ⟨rfl, (Option.some.inj h).symm⟩
  · rw [known?_set_of_ne hij] at h
    exact .inr ⟨Ne.symm hij, h⟩

/-- All that is known in the first cache is known in the second, and about the rules on the way
nothing else is. -/
structure Extends (path : List Nat) (c c' : Cache) : Prop where
  known : ∀ i v, c.known? i = some v → c'.known? i = some v
  on_path : ∀ k ∈ path, c'.known? k = c.known? k
  length_eq : c'.length = c.length

lemma Extends.refl : Extends path c c :=
  ⟨fun _ _ h => h, fun _ _ => rfl, rfl⟩

lemma Extends.trans (h : Extends path c c') (h' : Extends path c' c'') : Extends path c c'' where
  known i v hv := h'.known i v (h.known i v hv)
  on_path k hk := (h'.on_path k hk).trans (h.on_path k hk)
  length_eq := h'.length_eq.trans h.length_eq

lemma Extends.met (h : Extends path c c') (hi : c.Met i) : c'.Met i := by
  obtain ⟨v, hv, hok⟩ := hi
  exact ⟨v, h.known i v hv, hok⟩

/-- A verdict is entered for the last rule on the way, after the look at its preconditions. -/
lemma Extends.set (h : Extends (i :: path) c c') (hi : i ∉ path) (hnone : c.known? i = none) :
    Extends path c (c'.set i (some v)) where
  known k w hw := by
    have hne : i ≠ k := by
      rintro rfl
      simp [hnone] at hw
    rw [known?_set_of_ne hne]
    exact h.known k w hw
  on_path k hk := by
    have hne : i ≠ k := fun heq => hi (heq ▸ hk)
    rw [known?_set_of_ne hne]
    exact h.on_path k (List.mem_cons_of_mem i hk)
  length_eq := by rw [List.length_set, h.length_eq]

end Cache

namespace RuleGraph

variable {g : RuleGraph} {setting : Setting} {n : RuleNode}

lemma known?_emptyCache (i : Nat) : g.emptyCache.known? i = none := by
  rw [emptyCache, Cache.known?, List.getElem?_replicate]
  split <;> rfl

lemma length_emptyCache : g.emptyCache.length = g.size := by
  simp [emptyCache]

/-! ### The look at preconditions -/

section Preconditions

variable {visit : Nat → Cache → Verdict × Cache} {Inv : Cache → Prop}
  {Met : Nat → Cache → Prop} {Maybe : Nat → Prop} {j : Nat} {js : List Nat} {c : Cache}

lemma allHold_cons : allHold visit (j :: js) c =
    if (visit j c).1.ok then allHold visit js (visit j c).2 else (false, (visit j c).2) := rfl

lemma someHolds_cons : someHolds visit (j :: js) c =
    if (visit j c).1.ok then (true, (visit j c).2) else someHolds visit js (visit j c).2 := rfl

lemma preconditionsHold_eq : preconditionsHold visit n c =
    if !(allHold visit n.allOf c).1 then (false, (allHold visit n.allOf c).2)
    else if n.anyOf.isEmpty then (true, (allHold visit n.allOf c).2)
    else someHolds visit n.anyOf (allHold visit n.allOf c).2 := rfl

/-- A visit to `j` keeps an invariant of the cache and all that has been found to be `Met`. If its
verdict is that the rule is met, the rule has been found to be so; if not, it cannot be, as far as
`Maybe` tells. -/
structure Truthful (visit : Nat → Cache → Verdict × Cache) (Inv : Cache → Prop)
    (Met : Nat → Cache → Prop) (Maybe : Nat → Prop) (j : Nat) : Prop where
  inv : ∀ c, Inv c → Inv (visit j c).2
  keeps : ∀ c, Inv c → ∀ k, Met k c → Met k (visit j c).2
  met : ∀ c, Inv c → (visit j c).1.ok = true → Met j (visit j c).2
  unmet : ∀ c, Inv c → (visit j c).1.ok = false → ¬ Maybe j

lemma allHold_spec (h : ∀ j ∈ js, Truthful visit Inv Met Maybe j) (hc : Inv c) :
    Inv (allHold visit js c).2 ∧ (∀ k, Met k c → Met k (allHold visit js c).2) ∧
      ((allHold visit js c).1 = true → ∀ j ∈ js, Met j (allHold visit js c).2) ∧
      ((allHold visit js c).1 = false → ∃ j ∈ js, ¬ Maybe j) := by
  induction js generalizing c with
  | nil => simp [allHold, hc]
  | cons j js ih =>
      have hj := h j List.mem_cons_self
      rw [allHold_cons]
      cases hok : (visit j c).1.ok with
      | true =>
          obtain ⟨hinv, hkeeps, hmet, hunmet⟩ :=
            ih (fun k hk => h k (List.mem_cons_of_mem j hk)) (hj.inv c hc)
          -- What the first visit has found met must survive the later ones.
          refine ⟨hinv, fun k hk => hkeeps k (hj.keeps c hc k hk), fun hall k hk => ?_,
            fun hall => ?_⟩
          · rcases List.mem_cons.mp hk with rfl | hk
            · exact hkeeps k (hj.met c hc hok)
            · exact hmet hall k hk
          · obtain ⟨k, hk, hno⟩ := hunmet hall
            exact ⟨k, List.mem_cons_of_mem j hk, hno⟩
      | false =>
          exact ⟨hj.inv c hc, hj.keeps c hc, by simp,
            fun _ => ⟨j, List.mem_cons_self, hj.unmet c hc hok⟩⟩

lemma someHolds_spec (h : ∀ j ∈ js, Truthful visit Inv Met Maybe j) (hc : Inv c) :
    Inv (someHolds visit js c).2 ∧ (∀ k, Met k c → Met k (someHolds visit js c).2) ∧
      ((someHolds visit js c).1 = true → ∃ j ∈ js, Met j (someHolds visit js c).2) ∧
      ((someHolds visit js c).1 = false → ∀ j ∈ js, ¬ Maybe j) := by
  induction js generalizing c with
  | nil => simp [someHolds, hc]
  | cons j js ih =>
      have hj := h j List.mem_cons_self
      rw [someHolds_cons]
      cases hok : (visit j c).1.ok with
      | true =>
          exact ⟨hj.inv c hc, hj.keeps c hc,
            fun _ => ⟨j, List.mem_cons_self, hj.met c hc hok⟩, by simp⟩
      | false =>
          obtain ⟨hinv, hkeeps, hmet, hunmet⟩ :=
            ih (fun k hk => h k (List.mem_cons_of_mem j hk)) (hj.inv c hc)
          refine ⟨hinv, fun k hk => hkeeps k (hj.keeps c hc k hk), fun hsome => ?_,
            fun hsome k hk => ?_⟩
          · obtain ⟨k, hk, hyes⟩ := hmet hsome
            exact ⟨k, List.mem_cons_of_mem j hk, hyes⟩
          · rcases List.mem_cons.mp hk with rfl | hk
            · exact hj.unmet c hc hok
            · exact hunmet hsome k hk

/-- The look at all preconditions keeps the invariant, and its answer is right: with what has been
found if it is yes, and as far as can be told if it is no. -/
theorem preconditionsHold_spec
    (h : ∀ j, j ∈ n.allOf ∨ j ∈ n.anyOf → Truthful visit Inv Met Maybe j) (hc : Inv c) :
    Inv (preconditionsHold visit n c).2 ∧
      ((preconditionsHold visit n c).1 = true →
        n.HoldsWith fun j => Met j (preconditionsHold visit n c).2) ∧
      ((preconditionsHold visit n c).1 = false → ¬ n.HoldsWith Maybe) := by
  obtain ⟨hinv, -, hall, hnotall⟩ := allHold_spec (fun j hj => h j (.inl hj)) hc
  rw [preconditionsHold_eq]
  cases hb : (allHold visit n.allOf c).1 with
  | false =>
      obtain ⟨j, hj, hno⟩ := hnotall hb
      exact ⟨hinv, by simp, fun _ hn => hno (hn.1 j hj)⟩
  | true =>
      by_cases hnil : n.anyOf = []
      · simp only [hnil, List.isEmpty_nil, Bool.not_true, Bool.false_eq_true, if_false, if_true]
        exact ⟨hinv, fun _ => ⟨hall hb, .inl hnil⟩, by simp⟩
      · obtain ⟨hinv', hkeeps, hsome, hnone⟩ :=
          someHolds_spec (fun j hj => h j (.inr hj)) hinv
        have hne : n.anyOf.isEmpty = false := by simpa using hnil
        simp only [hne, Bool.not_true, Bool.false_eq_true, if_false]
        refine ⟨hinv', fun hyes => ⟨fun j hj => hkeeps j (hall hb j hj), .inr (hsome hyes)⟩,
          fun hno hn => ?_⟩
        rcases hn.2 with hnil' | ⟨j, hj, hmaybe⟩
        · exact hnil hnil'
        · exact hnone hno j hj hmaybe

lemma preconditionsHold_extends {path : List Nat}
    (h : ∀ j c, Cache.Extends path c (visit j c).2) :
    Cache.Extends path c (preconditionsHold visit n c).2 := by
  -- Only the invariant counts here, and nothing is asked of the verdicts.
  have htruthful : ∀ j, j ∈ n.allOf ∨ j ∈ n.anyOf →
      Truthful visit (Cache.Extends path c) (fun _ _ => True) (fun _ => False) j :=
    fun j _ => ⟨fun d hd => hd.trans (h j d), by simp, by simp, by simp⟩
  exact (preconditionsHold_spec htruthful .refl).1

end Preconditions

/-! ### The ways in which a visit ends -/

section Visit

variable {depth : Nat} {path : List Nat} {i : Nat} {c : Cache} {v : Verdict}

lemma visit_of_mem (hi : i ∈ path) :
    g.visit setting depth path i c = (g.loopVerdict path i, c) := by
  cases depth with
  | zero => rfl
  | succ depth => rw [visit, if_pos (List.contains_iff_mem.mpr hi)]

lemma visit_of_known (hi : i ∉ path) (hv : c.known? i = some v) :
    g.visit setting (depth + 1) path i c = (v, c) := by
  rw [visit, if_neg (fun hmem => hi (List.contains_iff_mem.mp hmem)), hv]

lemma visit_of_missing (hi : i ∉ path) (hv : c.known? i = none) (hn : g.nodes[i]? = none) :
    g.visit setting (depth + 1) path i c = (.violated ∅, c) := by
  rw [visit, if_neg (fun hmem => hi (List.contains_iff_mem.mp hmem)), hv, hn]

lemma visit_of_node (hi : i ∉ path) (hv : c.known? i = none) (hn : g.nodes[i]? = some n) :
    g.visit setting (depth + 1) path i c =
      (nodeVerdict setting n (preconditionsHold (g.visit setting depth (i :: path)) n c).1,
        (preconditionsHold (g.visit setting depth (i :: path)) n c).2.set i
          (some (nodeVerdict setting n
            (preconditionsHold (g.visit setting depth (i :: path)) n c).1))) := by
  rw [visit, if_neg (fun hmem => hi (List.contains_iff_mem.mp hmem)), hv, hn]

end Visit

/-- A property of visits holds if it holds of a visit that meets a loop, of one to a rule whose
verdict is known, of one to no rule at all, and of one that looks at the preconditions of a rule
when it holds of the visits to these. -/
theorem visit_induction
    {P : (depth : Nat) → (path : List Nat) → Nat → Cache → Verdict × Cache → Prop}
    (loop : ∀ depth path i c, depth = 0 ∨ i ∈ path → P depth path i c (g.loopVerdict path i, c))
    (known : ∀ depth path i c v, i ∉ path → c.known? i = some v → P (depth + 1) path i c (v, c))
    (missing : ∀ depth path i c, i ∉ path → c.known? i = none → g.nodes[i]? = none →
      P (depth + 1) path i c (.violated ∅, c))
    (node : ∀ depth path i c n, i ∉ path → c.known? i = none → g.nodes[i]? = some n →
      (∀ j c, P depth (i :: path) j c (g.visit setting depth (i :: path) j c)) →
      ∀ holds c', preconditionsHold (g.visit setting depth (i :: path)) n c = (holds, c') →
        P (depth + 1) path i c
          (nodeVerdict setting n holds, c'.set i (some (nodeVerdict setting n holds))))
    (depth : Nat) (path : List Nat) (i : Nat) (c : Cache) :
    P depth path i c (g.visit setting depth path i c) := by
  induction depth generalizing path i c with
  | zero => exact loop 0 path i c (.inl rfl)
  | succ depth ih =>
      by_cases hi : i ∈ path
      · rw [visit_of_mem hi]
        exact loop _ path i c (.inr hi)
      cases hv : c.known? i with
      | some v =>
          rw [visit_of_known hi hv]
          exact known depth path i c v hi hv
      | none =>
          cases hn : g.nodes[i]? with
          | none =>
              rw [visit_of_missing hi hv hn]
              exact missing depth path i c hi hv hn
          | some n =>
              rw [visit_of_node hi hv hn]
              exact node depth path i c n hi hv hn (fun j c => ih (i :: path) j c) _ _ rfl

/-- A visit extends the cache. -/
theorem visit_extends (depth : Nat) (path : List Nat) (i : Nat) (c : Cache) :
    Cache.Extends path c (g.visit setting depth path i c).2 := by
  refine visit_induction (P := fun _ path _ c r => Cache.Extends path c r.2)
    ?loop ?known ?missing ?node depth path i c
  case loop => exact fun _ _ _ _ _ => .refl
  case known => exact fun _ _ _ _ _ _ _ => .refl
  case missing => exact fun _ _ _ _ _ _ _ => .refl
  case node =>
      intro depth path i c n hi hnone _ ih holds c' heq
      have hext : Cache.Extends (i :: path) c
          (preconditionsHold (g.visit setting depth (i :: path)) n c).2 :=
        preconditionsHold_extends ih
      rw [heq] at hext
      exact hext.set hi hnone

/-- After a visit that meets no loop, the verdict on the rule is known. -/
theorem known?_visit {depth : Nat} {path : List Nat} {i : Nat} {c : Cache} (hi : i ∉ path)
    (hlt : i < g.size) (hlength : c.length = g.size) :
    (g.visit setting (depth + 1) path i c).2.known? i =
      some (g.visit setting (depth + 1) path i c).1 := by
  obtain ⟨n, hn⟩ := exists_node hlt
  cases hv : c.known? i with
  | some v =>
      rw [visit_of_known hi hv]
      exact hv
  | none =>
      have hext : Cache.Extends (i :: path) c
          (preconditionsHold (g.visit setting depth (i :: path)) n c).2 :=
        preconditionsHold_extends (visit_extends depth (i :: path))
      rw [visit_of_node hi hv hn]
      refine Cache.known?_set_self ?_
      rw [hext.length_eq, hlength]
      exact hlt

end RuleGraph

end SensorRules
