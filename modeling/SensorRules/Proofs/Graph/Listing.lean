import SensorRules.Proofs.Graph.Building

/-!
The order in which rules are listed.

* `RuleGraph.Relisted`: a graph has the rules of another at other positions;
* `Relisted.visit_eq`: a visit is then the same, position by position, and so an evaluation of a
  single rule from the beginning is the same (`Relisted.evaluate?_eq`);
* `RuleGraph.SameRules`: graphs of the same rules, such as those of permuted lists
  (`sameRules_of_perm`); if they are built of lists, the one is the other relisted
  (`SameRules.relisted`).
-/

namespace SensorRules

namespace RuleNode

/-- The rule with its preconditions at other positions. -/
def relabel (σ : Nat → Nat) (n : RuleNode) : RuleNode :=
  { n with allOf := n.allOf.map σ, anyOf := n.anyOf.map σ }

lemma relabel_holdsWith {σ : Nat → Nat} {n : RuleNode} {met : Nat → Prop} :
    (n.relabel σ).HoldsWith met ↔ n.HoldsWith fun j => met (σ j) := by
  simp [HoldsWith, relabel]

end RuleNode

namespace RuleGraph

variable {g g' : RuleGraph} {σ : Nat → Nat} {setting : Setting}

/-- The rule at a position of the first graph stands at another position of the second, and so do
its preconditions. -/
structure Relisted (g g' : RuleGraph) (σ : Nat → Nat) : Prop where
  size_eq : g'.size = g.size
  node : ∀ i n, g.nodes[i]? = some n → g'.nodes[σ i]? = some (n.relabel σ)
  inj : ∀ i j, i < g.size → j < g.size → σ i = σ j → i = j
  in_range : ∀ i j, g.Needs i j → j < g.size
  index? : ∀ name, g'.index? name = (g.index? name).map σ

/-! ### Visits -/

/-- The two caches know the same of each rule, wherever it stands. -/
def SameKnown (g : RuleGraph) (σ : Nat → Nat) (c c' : Cache) : Prop :=
  (c.length = g.size ∧ c'.length = g.size) ∧ ∀ i < g.size, c'.known? (σ i) = c.known? i

section Preconditions

variable {visit visit' : Nat → Cache → Verdict × Cache} {R : Cache → Cache → Prop} {js : List Nat}
  {c c' : Cache}

lemma allHold_relabel
    (h : ∀ j ∈ js, ∀ c c', R c c' →
      (visit' (σ j) c').1 = (visit j c).1 ∧ R (visit j c).2 (visit' (σ j) c').2)
    (hc : R c c') : (allHold visit' (js.map σ) c').1 = (allHold visit js c).1 ∧
      R (allHold visit js c).2 (allHold visit' (js.map σ) c').2 := by
  induction js generalizing c c' with
  | nil => exact ⟨rfl, hc⟩
  | cons j js ih =>
      obtain ⟨hv, hc'⟩ := h j List.mem_cons_self c c' hc
      rw [List.map_cons, allHold_cons, allHold_cons, hv]
      split
      · exact ih (fun k hk => h k (List.mem_cons_of_mem j hk)) hc'
      · exact ⟨rfl, hc'⟩

lemma someHolds_relabel
    (h : ∀ j ∈ js, ∀ c c', R c c' →
      (visit' (σ j) c').1 = (visit j c).1 ∧ R (visit j c).2 (visit' (σ j) c').2)
    (hc : R c c') : (someHolds visit' (js.map σ) c').1 = (someHolds visit js c).1 ∧
      R (someHolds visit js c).2 (someHolds visit' (js.map σ) c').2 := by
  induction js generalizing c c' with
  | nil => exact ⟨rfl, hc⟩
  | cons j js ih =>
      obtain ⟨hv, hc'⟩ := h j List.mem_cons_self c c' hc
      rw [List.map_cons, someHolds_cons, someHolds_cons, hv]
      split
      · exact ⟨rfl, hc'⟩
      · exact ih (fun k hk => h k (List.mem_cons_of_mem j hk)) hc'

lemma preconditionsHold_relabel {n : RuleNode}
    (h : ∀ j, j ∈ n.allOf ∨ j ∈ n.anyOf → ∀ c c', R c c' →
      (visit' (σ j) c').1 = (visit j c).1 ∧ R (visit j c).2 (visit' (σ j) c').2)
    (hc : R c c') :
    (preconditionsHold visit' (n.relabel σ) c').1 = (preconditionsHold visit n c).1 ∧
      R (preconditionsHold visit n c).2 (preconditionsHold visit' (n.relabel σ) c').2 := by
  obtain ⟨hall, hc'⟩ := allHold_relabel (fun j hj => h j (.inl hj)) hc
  rw [preconditionsHold_eq, preconditionsHold_eq]
  simp only [RuleNode.relabel, hall, List.isEmpty_map]
  split
  · exact ⟨rfl, hc'⟩
  · split
    · exact ⟨rfl, hc'⟩
    · exact someHolds_relabel (fun j hj => h j (.inr hj)) hc'

end Preconditions

namespace Relisted

variable {c c' : Cache} {i : Nat} {path : List Nat}

lemma needs (h : g.Relisted g' σ) {j : Nat} (hij : g.Needs i j) : g'.Needs (σ i) (σ j) := by
  obtain ⟨n, hn, hj⟩ := hij
  exact needs_of_mem (h.node i n hn) (hj.imp List.mem_map_of_mem List.mem_map_of_mem)

lemma onLoop (h : g.Relisted g' σ) (hi : g.OnLoop i) : g'.OnLoop (σ i) :=
  hi.lift σ fun _ _ => h.needs

lemma acyclic (h : g.Relisted g' σ) (h' : g'.Acyclic) : g.Acyclic :=
  fun i hi => h' (σ i) (h.onLoop hi)

lemma mem_map_iff (h : g.Relisted g' σ) (hi : i < g.size) (hpath : ∀ k ∈ path, k < g.size) :
    σ i ∈ path.map σ ↔ i ∈ path := by
  refine ⟨fun hmem => ?_, List.mem_map_of_mem⟩
  obtain ⟨k, hk, heq⟩ := List.mem_map.mp hmem
  rwa [← h.inj k i (hpath k hk) hi heq]

lemma sensorsAt_eq (h : g.Relisted g' σ) (hi : i < g.size) :
    g'.sensorsAt (σ i) = g.sensorsAt i := by
  obtain ⟨n, hn⟩ := exists_node hi
  simp [sensorsAt, hn, h.node i n hn, RuleNode.relabel]

lemma loopVerdict_eq (h : g.Relisted g' σ) (hi : i < g.size) (hpath : ∀ k ∈ path, k < g.size) :
    g'.loopVerdict (path.map σ) (σ i) = g.loopVerdict path i := by
  rw [loopVerdict, loopVerdict, h.sensorsAt_eq hi]
  congr 1
  generalize g.sensorsAt i = names
  induction path generalizing names with
  | nil => rfl
  | cons k path ih =>
      rw [List.map_cons, List.foldl_cons, List.foldl_cons,
        h.sensorsAt_eq (hpath k List.mem_cons_self)]
      exact ih (fun k' hk' => hpath k' (List.mem_cons_of_mem k hk')) _

lemma sameKnown_set (h : g.Relisted g' σ) (hi : i < g.size) (hc : g.SameKnown σ c c')
    (v : Verdict) : g.SameKnown σ (c.set i (some v)) (c'.set (σ i) (some v)) := by
  obtain ⟨⟨hlength, hlength'⟩, hknown⟩ := hc
  have hi' : σ i < g.size := by
    obtain ⟨n, hn⟩ := exists_node hi
    exact h.size_eq ▸ lt_size_of_node (h.node i n hn)
  refine ⟨⟨by rw [List.length_set, hlength], by rw [List.length_set, hlength']⟩, fun k hk => ?_⟩
  by_cases hik : i = k
  · subst hik
    rw [Cache.known?_set_self (hlength' ▸ hi'), Cache.known?_set_self (hlength ▸ hi)]
  · rw [Cache.known?_set_of_ne hik, Cache.known?_set_of_ne fun heq => hik (h.inj i k hi hk heq)]
    exact hknown k hk

lemma sameKnown_empty (h : g.Relisted g' σ) : g.SameKnown σ g.emptyCache g'.emptyCache := by
  refine ⟨⟨length_emptyCache, length_emptyCache.trans h.size_eq⟩, fun i _ => ?_⟩
  rw [known?_emptyCache, known?_emptyCache]

/-- A visit in the one graph is a visit in the other, position by position. -/
theorem visit_eq (h : g.Relisted g' σ) (depth : Nat) (path : List Nat) (i : Nat) (c c' : Cache)
    (hpath : ∀ k ∈ path, k < g.size) (hi : i < g.size) (hc : g.SameKnown σ c c') :
    (g'.visit setting depth (path.map σ) (σ i) c').1 = (g.visit setting depth path i c).1 ∧
      g.SameKnown σ (g.visit setting depth path i c).2
        (g'.visit setting depth (path.map σ) (σ i) c').2 := by
  revert c' hpath hi hc
  refine visit_induction (P := fun depth path i c r => ∀ c', (∀ k ∈ path, k < g.size) → i < g.size →
    g.SameKnown σ c c' → (g'.visit setting depth (path.map σ) (σ i) c').1 = r.1 ∧
      g.SameKnown σ r.2 (g'.visit setting depth (path.map σ) (σ i) c').2)
    ?loop ?known ?missing ?node depth path i c
  case loop =>
      rintro depth path i c hloop c' hpath hi hc
      have heq : g'.visit setting depth (path.map σ) (σ i) c' =
          (g'.loopVerdict (path.map σ) (σ i), c') := by
        rcases hloop with rfl | hmem
        · rfl
        · exact visit_of_mem (List.mem_map_of_mem hmem)
      rw [heq, h.loopVerdict_eq hi hpath]
      exact ⟨rfl, hc⟩
  case known =>
      intro depth path i c v hmem hv c' hpath hi hc
      rw [visit_of_known (mt (h.mem_map_iff hi hpath).mp hmem) ((hc.2 i hi).trans hv)]
      exact ⟨rfl, hc⟩
  case missing =>
      intro depth path i c _ _ hn c' _ hi
      obtain ⟨n, hn'⟩ := exists_node hi
      simp [hn] at hn'
  case node =>
      intro depth path i c n hmem hv hn ih holds d heq c' hpath hi hc
      have hpath' : ∀ k ∈ i :: path, k < g.size := by
        intro k hk
        rcases List.mem_cons.mp hk with rfl | hk
        · exact hi
        · exact hpath k hk
      -- The caches stay alike from precondition to precondition, whichever of them are visited.
      have hpre := preconditionsHold_relabel (n := n) (c := c) (R := g.SameKnown σ)
        (fun j hj d d' hd =>
          ih j d d' hpath' (h.in_range i j (needs_of_mem hn hj)) hd) hc
      rw [heq] at hpre
      rw [visit_of_node (mt (h.mem_map_iff hi hpath).mp hmem) ((hc.2 i hi).trans hv)
        (h.node i n hn)]
      rw [List.map_cons] at hpre
      rw [hpre.1]
      exact ⟨rfl, h.sameKnown_set hi hpre.2 _⟩

/-- A rule that is evaluated alone, from the beginning, has the same verdict in both graphs. -/
theorem evaluate?_eq (h : g.Relisted g' σ) (name : String) :
    (g'.evaluate? setting name g'.emptyCache).map Prod.fst =
      (g.evaluate? setting name g.emptyCache).map Prod.fst := by
  rw [evaluate?, evaluate?, h.index?, Option.map_map, Option.map_map, Option.map_map]
  cases hidx : g.index? name with
  | none => rfl
  | some i =>
      obtain ⟨n, hn, -⟩ := node_of_index? hidx
      refine congrArg some ?_
      show (g'.visit setting (g'.size + 1) [] (σ i) g'.emptyCache).1 =
        (g.visit setting (g.size + 1) [] i g.emptyCache).1
      rw [h.size_eq]
      exact (h.visit_eq _ [] i _ _ (by simp) (lt_size_of_node hn) h.sameKnown_empty).1

end Relisted

/-! ### Graphs of the same rules -/

/-- The two graphs have the same rules, at any positions. -/
def SameRules (g g' : RuleGraph) : Prop :=
  (g.nodes.map RuleNode.rule).Perm (g'.nodes.map RuleNode.rule)

/-- The position in a second graph of the rule at a position. -/
def placeIn (g g' : RuleGraph) (i : Nat) : Nat :=
  (g'.index? (g.nameAt i)).getD 0

namespace SameRules

variable {rs rs' : List Rule} {i : Nat} {n : RuleNode}

lemma symm (h : g.SameRules g') : g'.SameRules g :=
  List.Perm.symm h

lemma exists_node (h : g.SameRules g') (hn : g.nodes[i]? = some n) :
    ∃ (j : Nat) (m : RuleNode), g'.nodes[j]? = some m ∧ m.rule = n.rule := by
  have hmem : n.rule ∈ g'.nodes.map RuleNode.rule :=
    h.mem_iff.mp (List.mem_map_of_mem (List.mem_of_getElem? hn))
  obtain ⟨m, hm, hrule⟩ := List.mem_map.mp hmem
  obtain ⟨j, hj⟩ := List.getElem?_of_mem hm
  exact ⟨j, m, hj, hrule⟩

/-- The rule at a position stands in the second graph at its place there, and is found there. -/
lemma placeIn_spec (h : (ofRules rs).SameRules (ofRules rs'))
    (hn : (ofRules rs).nodes[i]? = some n) :
    (ofRules rs').index? n.name = some ((ofRules rs).placeIn (ofRules rs') i) ∧
      ∃ m, (ofRules rs').nodes[(ofRules rs).placeIn (ofRules rs') i]? = some m ∧
        m.rule = n.rule := by
  obtain ⟨j, m, hm, hrule⟩ := h.exists_node hn
  have hidx : (ofRules rs').index? n.name = some j :=
    distinct_ofRules.index?_eq_some_iff.mpr ⟨m, hm, congrArg Rule.name hrule⟩
  have hj : (ofRules rs).placeIn (ofRules rs') i = j := by
    simp [placeIn, nameAt_of_node hn, hidx]
  rw [hj]
  exact ⟨hidx, m, hm, hrule⟩

lemma index?_eq (h : (ofRules rs).SameRules (ofRules rs')) (name : String) :
    (ofRules rs').index? name =
      ((ofRules rs).index? name).map ((ofRules rs).placeIn (ofRules rs')) := by
  cases hidx : (ofRules rs).index? name with
  | some i =>
      obtain ⟨n, hn, rfl⟩ := node_of_index? hidx
      exact (h.placeIn_spec hn).1
  | none =>
      refine Option.eq_none_iff_forall_ne_some.mpr fun j hj => ?_
      obtain ⟨m, hm, rfl⟩ := node_of_index? hj
      obtain ⟨i, n, hn, hrule⟩ := h.symm.exists_node hm
      have hfound : (ofRules rs).index? m.name = some i :=
        distinct_ofRules.index?_eq_some_iff.mpr ⟨n, hn, congrArg Rule.name hrule⟩
      rw [hidx] at hfound
      cases hfound

lemma relabel_node (h : (ofRules rs).SameRules (ofRules rs'))
    (hn : (ofRules rs).nodes[i]? = some n) :
    (ofRules rs').nodes[(ofRules rs).placeIn (ofRules rs') i]? =
      some (n.relabel ((ofRules rs).placeIn (ofRules rs'))) := by
  obtain ⟨-, m, hm, hrule⟩ := h.placeIn_spec hn
  have hexpression : m.expression = n.expression := by
    have hread := read_of_node hm
    rw [hrule, read_of_node hn] at hread
    exact (Except.ok.inj hread).symm
  have hallOf : m.allOf = n.allOf.map ((ofRules rs).placeIn (ofRules rs')) := by
    rw [allOf_of_node hm, allOf_of_node hn, hrule, List.map_filterMap]
    exact List.filterMap_congr fun name _ => h.index?_eq name
  have hanyOf : m.anyOf = n.anyOf.map ((ofRules rs).placeIn (ofRules rs')) := by
    rw [anyOf_of_node hm, anyOf_of_node hn, hrule, List.map_filterMap]
    exact List.filterMap_congr fun name _ => h.index?_eq name
  rw [hm, RuleNode.relabel, ← hallOf, ← hanyOf, ← hexpression, ← hrule]

/-- The place in the second graph leads back to the place in the first. -/
lemma placeIn_placeIn (h : (ofRules rs).SameRules (ofRules rs')) (hi : i < (ofRules rs).size) :
    (ofRules rs').placeIn (ofRules rs) ((ofRules rs).placeIn (ofRules rs') i) = i := by
  obtain ⟨n, hn⟩ := RuleGraph.exists_node hi
  obtain ⟨-, m, hm, hrule⟩ := h.placeIn_spec hn
  obtain ⟨hidx, -⟩ := h.symm.placeIn_spec hm
  obtain ⟨k, hk, hname⟩ := node_of_index? hidx
  exact distinct_ofRules.index_unique hk hn (hname.trans (congrArg Rule.name hrule))

/-- The rule with a name is the same. -/
lemma map_rule_node? (h : (ofRules rs).SameRules (ofRules rs')) (name : String) :
    ((ofRules rs).node? name).map RuleNode.rule = ((ofRules rs').node? name).map RuleNode.rule := by
  have hfound : ∀ rs : List Rule, ∀ r, ((ofRules rs).node? name).map RuleNode.rule = some r ↔
      r ∈ (ofRules rs).nodes.map RuleNode.rule ∧ r.name = name := by
    intro rs r
    rw [Option.map_eq_some_iff]
    constructor
    · rintro ⟨n, hn, rfl⟩
      exact ⟨List.mem_map_of_mem (mem_of_node? hn), name_of_node? hn⟩
    · rintro ⟨hr, rfl⟩
      obtain ⟨n, hn, rfl⟩ := List.mem_map.mp hr
      exact ⟨n, distinct_ofRules.node?_of_mem hn, rfl⟩
  refine Option.ext fun r => ?_
  rw [hfound, hfound, h.mem_iff]

/-- Graphs that are built of lists with the same rules differ in the positions only. -/
theorem relisted (h : (ofRules rs).SameRules (ofRules rs')) :
    (ofRules rs).Relisted (ofRules rs') ((ofRules rs).placeIn (ofRules rs')) where
  size_eq := by simpa [size] using h.length_eq.symm
  node i n hn := h.relabel_node hn
  inj i j hi hj heq := by
    obtain ⟨m, hm⟩ := RuleGraph.exists_node hi
    obtain ⟨n, hn⟩ := RuleGraph.exists_node hj
    have hsame := (h.relabel_node hm).symm.trans (heq ▸ h.relabel_node hn)
    have hname := congrArg (fun k : RuleNode => k.rule.name) (Option.some.inj hsame)
    exact distinct_ofRules.index_unique hm hn hname
  in_range _ _ := lt_size_of_needs
  index? := h.index?_eq

end SameRules

/-- Lists of rules with distinct names that are permutations of each other make graphs of the same
rules. -/
theorem sameRules_of_perm {rs rs' : List Rule} (hnodup : (rs.map Rule.name).Nodup)
    (h : rs.Perm rs') : (ofRules rs).SameRules (ofRules rs') := by
  have hnodup' : (rs'.map Rule.name).Nodup := (h.map Rule.name).nodup_iff.mp hnodup
  rw [SameRules, rules_ofRules, rules_ofRules, select_eq_filterMap hnodup (by simp),
    select_eq_filterMap hnodup' (by simp)]
  exact (h.filterMap entry?).map Prod.fst

end RuleGraph

end SensorRules
