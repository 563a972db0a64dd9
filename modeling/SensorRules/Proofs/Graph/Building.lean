import SensorRules.Proofs.Graph.Session

/-!
The graph that is built of a list of rules.

* `RuleGraph.read_of_mem_select`, `RuleGraph.nodup_select`: every rule in the graph has an
  expression that can be read, and no two of them have one name;
* `RuleGraph.distinct_ofRules`: so each rule is found under its name;
* `RuleGraph.read_of_node`, `RuleGraph.allOf_of_node`, `RuleGraph.anyOf_of_node`: what stands at a
  position, and `RuleGraph.lt_size_of_needs`: the positions of preconditions are positions of rules.
-/

namespace SensorRules

/-- The outcome of the rule is tracked and shown once it stands in a graph. -/
def Rule.isShown (r : Rule) : Bool :=
  match Expression.read r.expression with
  | .ok e => e.kind.isShown r.invisible
  | .error _ => false

namespace RuleGraph

variable {rs : List Rule} {taken : NameSet} {e : Rule × Expression}

lemma read_of_mem_select (h : e ∈ select taken rs) : Expression.read e.1.expression = .ok e.2 := by
  fun_induction select taken rs with
  | case1 => simp at h
  | case2 taken r rs _ ih => exact ih h
  | case3 taken r rs _ x hx ih =>
      rcases List.mem_cons.mp h with rfl | h
      · exact hx
      · exact ih h
  | case4 taken r rs _ _ _ ih => exact ih h

lemma mem_of_mem_select (h : e ∈ select taken rs) : e.1 ∈ rs := by
  fun_induction select taken rs with
  | case1 => simp at h
  | case2 taken r rs _ ih => exact List.mem_cons_of_mem r (ih h)
  | case3 taken r rs _ x _ ih =>
      rcases List.mem_cons.mp h with rfl | h
      · exact List.mem_cons_self
      · exact List.mem_cons_of_mem r (ih h)
  | case4 taken r rs _ _ _ ih => exact List.mem_cons_of_mem r (ih h)

lemma name_notMem_of_mem_select (h : e ∈ select taken rs) : e.1.name ∉ taken := by
  fun_induction select taken rs with
  | case1 => simp at h
  | case2 taken r rs _ ih => exact ih h
  | case3 taken r rs hr _ _ ih =>
      rcases List.mem_cons.mp h with rfl | h
      · exact hr
      · exact fun hmem => ih h (Std.ExtTreeSet.mem_insert.mpr (.inr hmem))
  | case4 taken r rs _ _ _ ih => exact ih h

lemma nodup_select : ((select taken rs).map fun e => e.1.name).Nodup := by
  fun_induction select taken rs with
  | case1 => exact List.nodup_nil
  | case2 taken r rs _ ih => exact ih
  | case3 taken r rs _ _ _ ih =>
      rw [List.map_cons, List.nodup_cons]
      refine ⟨fun hmem => ?_, ih⟩
      obtain ⟨e, he, hname⟩ := List.mem_map.mp hmem
      refine name_notMem_of_mem_select he (Std.ExtTreeSet.mem_insert.mpr (.inl ?_))
      exact Std.compare_eq_iff_eq.mpr hname.symm
  | case4 taken r rs _ _ _ ih => exact ih

/-- The rule as it stands in a graph, if its expression can be read. -/
def entry? (r : Rule) : Option (Rule × Expression) :=
  (Expression.read r.expression).toOption.map (r, ·)

/-- If no two rules of the list have one name, every rule whose expression can be read is taken. -/
lemma select_eq_filterMap (hnodup : (rs.map Rule.name).Nodup) (htaken : ∀ r ∈ rs, r.name ∉ taken) :
    select taken rs = rs.filterMap entry? := by
  fun_induction select taken rs with
  | case1 => rfl
  | case2 taken r rs hr _ => exact absurd hr (htaken r List.mem_cons_self)
  | case3 taken r rs _ x hx ih =>
      rw [List.map_cons, List.nodup_cons] at hnodup
      rw [List.filterMap_cons, entry?, hx, ih hnodup.2 ?_]
      · rfl
      · intro r' hr' hmem
        rcases Std.ExtTreeSet.mem_insert.mp hmem with heq | hmem
        · refine hnodup.1 ?_
          rw [Std.compare_eq_iff_eq.mp heq]
          exact List.mem_map_of_mem hr'
        · exact htaken r' (List.mem_cons_of_mem r hr') hmem
  | case4 taken r rs _ x hx ih =>
      rw [List.map_cons, List.nodup_cons] at hnodup
      rw [List.filterMap_cons, entry?, hx,
        ih hnodup.2 fun r' hr' => htaken r' (List.mem_cons_of_mem r hr')]
      rfl

lemma rules_ofRules : (ofRules rs).nodes.map RuleNode.rule = (select ∅ rs).map Prod.fst := by
  rw [ofRules, List.map_map]
  rfl

/-- Every rule of a graph is one of the list. -/
lemma rule_mem_of_mem {n : RuleNode} (hn : n ∈ (ofRules rs).nodes) : n.rule ∈ rs := by
  have hrule : n.rule ∈ (ofRules rs).nodes.map RuleNode.rule := List.mem_map_of_mem hn
  rw [rules_ofRules] at hrule
  obtain ⟨e, he, heq⟩ := List.mem_map.mp hrule
  exact heq ▸ mem_of_mem_select he

/-- No two rules of a graph that is built have one name. -/
lemma distinct_ofRules : (ofRules rs).Distinct := by
  rw [Distinct, ofRules, List.map_map]
  exact nodup_select

/-! ### What stands at a position -/

section Node

variable {i j : Nat} {n : RuleNode} {name : String}

lemma index?_ofRules : (ofRules rs).index? name = position? (select ∅ rs) name := by
  rw [index?, ofRules, List.findIdx?_map]
  rfl

lemma exists_of_node (hn : (ofRules rs).nodes[i]? = some n) : ∃ e ∈ select ∅ rs,
    n = ⟨e.1, e.2, positions (select ∅ rs) e.1.requiredTrue,
      positions (select ∅ rs) e.1.orRules⟩ := by
  rw [ofRules, List.getElem?_map] at hn
  obtain ⟨e, he, rfl⟩ := Option.map_eq_some_iff.mp hn
  exact ⟨e, List.mem_of_getElem? he, rfl⟩

lemma read_of_node (hn : (ofRules rs).nodes[i]? = some n) :
    Expression.read n.rule.expression = .ok n.expression := by
  obtain ⟨e, he, rfl⟩ := exists_of_node hn
  exact read_of_mem_select he

/-- Whether a rule is shown is told by its own expression. -/
lemma isShown_of_mem (hn : n ∈ (ofRules rs).nodes) : n.isShown = n.rule.isShown := by
  obtain ⟨i, hi⟩ := List.getElem?_of_mem hn
  rw [Rule.isShown, read_of_node hi]
  rfl

lemma allOf_of_node (hn : (ofRules rs).nodes[i]? = some n) :
    n.allOf = n.rule.requiredTrue.toList.filterMap (ofRules rs).index? := by
  obtain ⟨e, -, rfl⟩ := exists_of_node hn
  exact List.filterMap_congr fun name _ => index?_ofRules.symm

lemma anyOf_of_node (hn : (ofRules rs).nodes[i]? = some n) :
    n.anyOf = n.rule.orRules.toList.filterMap (ofRules rs).index? := by
  obtain ⟨e, -, rfl⟩ := exists_of_node hn
  exact List.filterMap_congr fun name _ => index?_ofRules.symm

/-- The preconditions of a rule stand in the graph. -/
lemma lt_size_of_needs (h : (ofRules rs).Needs i j) : j < (ofRules rs).size := by
  obtain ⟨n, hn, hj⟩ := h
  rw [allOf_of_node hn, anyOf_of_node hn, List.mem_filterMap, List.mem_filterMap] at hj
  obtain ⟨name, -, hidx⟩ | ⟨name, -, hidx⟩ := hj
  all_goals
    obtain ⟨m, hm, -⟩ := node_of_index? hidx
    exact lt_size_of_node hm

end Node

end RuleGraph

/-! ### Rules without sensors -/

/-- A rule without sensors, with an expression and the names of its preconditions. -/
def Rule.gate (name expression : String) (allOf anyOf : List String) : Rule where
  name := name
  expression := expression
  sensorNames := ∅
  viewPermissions := ∅
  requiredTrue := NameSet.ofNames allOf
  orRules := NameSet.ofNames anyOf
  okMessage := ""
  levels := ∅
  invisible := false
  priority := 0
  relatedLogs := ∅

/-- A house without sensors and without capabilities, at the beginning of 1970. -/
def Setting.bare : Setting :=
  ⟨.empty, .empty, ⟨.epoch, 0, .standard⟩⟩

end SensorRules
