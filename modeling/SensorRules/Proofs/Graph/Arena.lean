import SensorRules.Proofs.Rule.Sifting

/-!
A graph as it is stored, with an index of its names and a place for the verdict on each rule.

* `Arena` and `Arena.build`: the rules are taken one after the other, each with its name into the
  index, and then the preconditions are looked up there;
* `Rule.firsts`: the places of the rules that come first, which can be read and have no such rule of
  their name before them;
* `Arena.Draft.Takes`: these are taken, in their order, and the index is the inverse of their
  positions; each step of the loop keeps this (`Arena.Draft.Takes.add`);
* `Arena.graph_build`: what is stored is the graph of the list;
* `Arena.Resolves`: the positions of the names of a set, in the order of the names;
* `RuleGraph.node?_ofRules`: the rule that is found under a name.
-/

namespace SensorRules

/-! ### The rules that come first -/

namespace Rule

variable {rs rs' : List Rule} {r : Rule} {k : Nat} {name : String}

/-- The rule at a place can be read, and none before it with its name can. -/
def IsFirst (rs : List Rule) (k : Nat) : Prop :=
  ∃ r ∈ rs[k]?, r.Readable ∧ ∀ r' ∈ rs.take k, r'.name = r.name → ¬ r'.Readable

instance (rs : List Rule) : DecidablePred (IsFirst rs) := fun k =>
  inferInstanceAs (Decidable (∃ r ∈ rs[k]?, _))

/-- The places of the rules that come first. -/
def firsts (rs : List Rule) : List Nat :=
  (List.range rs.length).filter (IsFirst rs)

lemma isFirst_append (hk : k < rs.length) : IsFirst (rs ++ rs') k ↔ IsFirst rs k := by
  rw [IsFirst, IsFirst, List.getElem?_append_left hk,
    List.take_append_of_le_length (Nat.le_of_lt hk)]

lemma isFirst_concat : IsFirst (rs ++ [r]) rs.length ↔
    r.Readable ∧ ∀ r' ∈ rs, r'.name = r.name → ¬ r'.Readable := by
  simp [IsFirst]

lemma firsts_concat : firsts (rs ++ [r]) =
    firsts rs ++ if IsFirst (rs ++ [r]) rs.length then [rs.length] else [] := by
  have hbefore : (List.range rs.length).filter (IsFirst (rs ++ [r])) = firsts rs :=
    List.filter_congr fun k hk => decide_eq_decide.mpr (isFirst_append (List.mem_range.mp hk))
  rw [firsts, List.length_append, List.length_singleton, List.range_succ, List.filter_append,
    hbefore]
  simp only [List.filter_cons, List.filter_nil, decide_eq_true_eq]

lemma map_firsts_append : (firsts rs).map ((rs ++ rs')[·]?) = (firsts rs).map (rs[·]?) := by
  refine List.map_congr_left fun k hk => ?_
  have hlt : k < rs.length := List.mem_range.mp (List.mem_of_mem_filter hk)
  exact List.getElem?_append_left hlt

end Rule

open Rule (IsFirst firsts firsts_concat isFirst_concat map_firsts_append)

/-! ### Building -/

/-- A graph as it is stored: its rules, the position of each name, and the verdicts known so far. -/
structure Arena where
  nodes : List RuleNode
  index : NameTable Nat
  cache : Cache

namespace Arena

/-- The rules that are taken so far, with the position of each name. -/
structure Draft where
  rules : List (Rule × Expression)
  index : NameTable Nat

namespace Draft

/-- Nothing is taken. -/
def empty : Draft :=
  ⟨[], ∅⟩

/-- A rule is taken unless its name is in the index or its expression cannot be read. -/
def add (d : Draft) (r : Rule) : Draft :=
  if r.name ∈ d.index then d
  else
    match Expression.read r.expression with
    | .ok e => ⟨d.rules ++ [(r, e)], d.index.insert r.name d.rules.length⟩
    | .error _ => d

/-- The rules of a list are taken, one after the other. -/
def ofRules (rs : List Rule) : Draft :=
  rs.foldl add empty

/-- The positions of the names that are in the index, in the order of the names. -/
def resolve (d : Draft) (names : NameSet) : List Nat :=
  names.toList.filterMap (d.index[·]?)

end Draft

/-- The rules of a list are taken, and then their preconditions are looked up. No verdict is
known. -/
def build (rs : List Rule) : Arena :=
  let d := Draft.ofRules rs
  { nodes := d.rules.map fun e =>
      ⟨e.1, e.2, d.resolve e.1.requiredTrue, d.resolve e.1.orRules⟩
    index := d.index
    cache := List.replicate d.rules.length none }

/-- The graph that is stored. -/
def graph (a : Arena) : RuleGraph :=
  ⟨a.nodes⟩

variable {rs : List Rule} {r : Rule} {name : String} {i : Nat}

namespace Draft

variable {d : Draft} {taken : NameSet}

lemma add_of_mem (h : r.name ∈ d.index) : d.add r = d := by
  rw [add, if_pos h]

lemma add_of_not_readable (h : ¬ r.Readable) : d.add r = d := by
  rw [add]
  split
  · rfl
  · split
    next e he => exact absurd ⟨e, he⟩ h
    next => rfl

lemma add_of_read {e : Expression} (h : r.name ∉ d.index)
    (he : Expression.read r.expression = .ok e) :
    d.add r = ⟨d.rules ++ [(r, e)], d.index.insert r.name d.rules.length⟩ := by
  rw [add, if_neg h, he]

/-- What is taken of a list. -/
structure Takes (d : Draft) (rs : List Rule) : Prop where
  /-- The rules that come first are taken, in their order. -/
  rules_eq : d.rules.map (fun e => some e.1) = (firsts rs).map (rs[·]?)
  /-- Each stands with its expression. -/
  read : ∀ e ∈ d.rules, Expression.read e.1.expression = .ok e.2
  /-- The index has the names of the rules that can be read. -/
  mem_index : ∀ name, name ∈ d.index ↔ ∃ r ∈ rs, r.name = name ∧ r.Readable
  /-- A name has a position in the index just if its rule stands there. -/
  index_iff : ∀ (name : String) (i : Nat), d.index[name]? = some i ↔
    ∃ e, d.rules[i]? = some e ∧ e.1.name = name

lemma takes_empty : empty.Takes [] where
  rules_eq := rfl
  read := by simp [empty]
  mem_index := by simp [empty]
  index_iff := by simp [empty]

/-- A rule that can be read comes first if its name is not in the index. -/
lemma Takes.isFirst_iff (h : d.Takes rs) :
    IsFirst (rs ++ [r]) rs.length ↔ r.Readable ∧ r.name ∉ d.index := by
  rw [isFirst_concat, h.mem_index]
  simp

/-- A rule that does not come first is left out. -/
lemma Takes.skip (h : d.Takes rs) (hskip : r.name ∈ d.index ∨ ¬ r.Readable) :
    d.Takes (rs ++ [r]) where
  rules_eq := by
    have hnot : ¬ IsFirst (rs ++ [r]) rs.length := by
      rw [h.isFirst_iff]
      tauto
    rw [firsts_concat, if_neg hnot, List.append_nil, map_firsts_append, h.rules_eq]
  read := h.read
  mem_index name := by
    rw [h.mem_index] at hskip
    simp only [h.mem_index, List.mem_append, List.mem_singleton]
    constructor
    · rintro ⟨r', hr', hname⟩
      exact ⟨r', .inl hr', hname⟩
    · rintro ⟨r', hr' | rfl, rfl, hread⟩
      · exact ⟨r', hr', rfl, hread⟩
      · exact hskip.resolve_right fun hno => hno hread
  index_iff := h.index_iff

/-- A rule that comes first is taken, at the end. -/
lemma Takes.take {e : Expression} (h : d.Takes rs) (hnew : r.name ∉ d.index)
    (he : Expression.read r.expression = .ok e) :
    (⟨d.rules ++ [(r, e)], d.index.insert r.name d.rules.length⟩ : Draft).Takes (rs ++ [r]) where
  rules_eq := by
    have hfirst : IsFirst (rs ++ [r]) rs.length := h.isFirst_iff.mpr ⟨⟨e, he⟩, hnew⟩
    rw [firsts_concat, if_pos hfirst, List.map_append, List.map_append, map_firsts_append,
      h.rules_eq]
    simp
  read e' he' := by
    rcases List.mem_append.mp he' with he' | he'
    · exact h.read e' he'
    · obtain rfl := List.mem_singleton.mp he'
      exact he
  mem_index name := by
    have hread : r.Readable := ⟨e, he⟩
    rw [Std.ExtTreeMap.mem_insert, Std.compare_eq_iff_eq, h.mem_index]
    simp only [List.mem_append, List.mem_singleton]
    constructor
    · rintro (rfl | ⟨r', hr', hname⟩)
      · exact ⟨r, .inr rfl, rfl, hread⟩
      · exact ⟨r', .inl hr', hname⟩
    · rintro ⟨r', hr' | rfl, hname⟩
      · exact .inr ⟨r', hr', hname⟩
      · exact .inl hname.1
  index_iff name i := by
    rw [NameTable.getElem?_insert]
    rcases Nat.lt_trichotomy i d.rules.length with hlt | rfl | hgt
    · rw [List.getElem?_append_left hlt, ← h.index_iff]
      split
      next heq =>
        -- The name is new, and so it has no earlier position.
        subst heq
        simp [Std.ExtTreeMap.getElem?_eq_none hnew, Nat.ne_of_gt hlt]
      next => rfl
    · have hnone : d.index[name]? ≠ some d.rules.length := by
        simp [h.index_iff]
      simp only [List.getElem?_concat_length, Option.some.injEq, exists_eq_left']
      split
      next heq => simp [heq]
      next hne => exact iff_of_false hnone hne
    · have hnone : d.index[name]? ≠ some i := by
        simp [h.index_iff, List.getElem?_eq_none (Nat.le_of_lt hgt)]
      have hlength : (d.rules ++ [(r, e)]).length ≤ i := by
        rw [List.length_append, List.length_singleton]
        exact hgt
      simp only [List.getElem?_eq_none hlength, reduceCtorEq, false_and, exists_false, iff_false]
      split
      next => simp [Nat.ne_of_lt hgt]
      next => exact hnone

/-- One step of the loop. -/
lemma Takes.add (h : d.Takes rs) (r : Rule) : (d.add r).Takes (rs ++ [r]) := by
  by_cases hskip : r.name ∈ d.index ∨ ¬ r.Readable
  · have hsame : d.add r = d := hskip.elim add_of_mem add_of_not_readable
    rw [hsame]
    exact h.skip hskip
  · obtain ⟨hnew, hread⟩ := not_or.mp hskip
    obtain ⟨e, he⟩ := not_not.mp hread
    rw [add_of_read hnew he]
    exact h.take hnew he

/-- The whole loop. -/
lemma takes_ofRules (rs : List Rule) : (ofRules rs).Takes rs := by
  rw [ofRules]
  induction rs using List.reverseRecOn with
  | nil => exact takes_empty
  | append_singleton rs r ih =>
      rw [List.foldl_append]
      exact ih.add r

/-- The rules that the loop takes after those of a draft are those that are selected after their
names. -/
lemma rules_foldl (h : ∀ name, name ∈ taken ↔ name ∈ d.index) :
    (rs.foldl add d).rules = d.rules ++ RuleGraph.select taken rs := by
  fun_induction RuleGraph.select taken rs generalizing d with
  | case1 => simp
  | case2 taken r rs hr ih => rw [List.foldl_cons, add_of_mem ((h _).mp hr), ih h]
  | case3 taken r rs hr e he ih =>
      rw [List.foldl_cons, add_of_read (mt (h _).mpr hr) he, ih, List.append_assoc]
      · rfl
      · intro name
        rw [NameSet.mem_insert, h, Std.ExtTreeMap.mem_insert, Std.compare_eq_iff_eq]
  | case4 taken r rs hr _ he ih =>
      rw [List.foldl_cons, add_of_not_readable (Rule.not_readable_of_error he), ih h]

lemma rules_ofRules : (ofRules rs).rules = RuleGraph.select ∅ rs :=
  rules_foldl fun name => by simp [empty]

end Draft

/-! ### What is stored -/

variable {a : Arena} {n : RuleNode}

lemma name_getElem?_build : ((build rs).nodes[i]?).map RuleNode.name =
    ((Draft.ofRules rs).rules[i]?).map fun e => e.1.name := by
  rw [build, List.getElem?_map, Option.map_map]
  rfl

/-- The index and the positions are inverse to each other. -/
def Indexed (a : Arena) : Prop :=
  ∀ (name : String) (i : Nat), a.index[name]? = some i ↔
    ∃ n, a.nodes[i]? = some n ∧ n.name = name

lemma indexed_build : (build rs).Indexed := by
  intro name i
  have hname : (∃ n, (build rs).nodes[i]? = some n ∧ n.name = name) ↔
      ∃ e, (Draft.ofRules rs).rules[i]? = some e ∧ e.1.name = name := by
    rw [← Option.map_eq_some_iff, name_getElem?_build, Option.map_eq_some_iff]
  rw [hname]
  exact (Draft.takes_ofRules rs).index_iff name i

/-- The index is that of a graph whose names are distinct. -/
lemma Indexed.index_eq (h : a.Indexed) (distinct : a.graph.Distinct) (name : String) :
    a.index[name]? = a.graph.index? name := by
  refine Option.ext fun i => ?_
  rw [distinct.index?_eq_some_iff]
  exact h name i

/-- What is stored is the graph of the list. -/
theorem graph_build : (build rs).graph = .ofRules rs := by
  have hindex (name : String) :
      (Draft.ofRules rs).index[name]? = RuleGraph.position? (RuleGraph.select ∅ rs) name := by
    refine Option.ext fun i => ?_
    rw [(Draft.takes_ofRules rs).index_iff, Draft.rules_ofRules, ← RuleGraph.index?_ofRules,
      RuleGraph.distinct_ofRules.index?_eq_some_iff]
    simp only [RuleGraph.ofRules, List.getElem?_map, Option.map_eq_some_iff]
    constructor
    · rintro ⟨e, he, hname⟩
      exact ⟨_, ⟨e, he, rfl⟩, hname⟩
    · rintro ⟨_, ⟨e, he, rfl⟩, hname⟩
      exact ⟨e, he, hname⟩
  have hresolve (names : NameSet) :
      (Draft.ofRules rs).resolve names = RuleGraph.positions (RuleGraph.select ∅ rs) names :=
    List.filterMap_congr fun name _ => hindex name
  simp only [graph, build, RuleGraph.ofRules, Draft.rules_ofRules, hresolve]

/-- A name is taken by its first rule that can be read, also if the rule needs itself. What is not
in the graph is not needed. -/
example :
    (build [.gate "a" "~" [] [], .gate "a" "" ["b", "a", "c"] [], .gate "b" "" [] ["b"],
        .gate "a" "" [] []]).nodes.map (fun n => (n.name, n.allOf, n.anyOf)) =
      [("a", [0, 1], []), ("b", [], [1])] := by
  decide

/-! ### Preconditions -/

/-- The positions of those names of a set that are in the graph, in the order of the names. -/
structure Resolves (a : Arena) (names : NameSet) (is : List Nat) : Prop where
  /-- They are the positions of rules with these names. -/
  mem_iff : ∀ i, i ∈ is ↔ ∃ n, a.nodes[i]? = some n ∧ n.name ∈ names
  /-- The names ascend. -/
  ascending : is.Pairwise fun i j => ∀ m ∈ a.nodes[i]?, ∀ n ∈ a.nodes[j]?, m.name < n.name
  /-- No position is there twice. -/
  nodup : is.Nodup

lemma Indexed.resolves (h : a.Indexed) (names : NameSet) :
    a.Resolves names (names.toList.filterMap (a.index[·]?)) := by
  have hmem (i : Nat) : i ∈ names.toList.filterMap (a.index[·]?) ↔
      ∃ n, a.nodes[i]? = some n ∧ n.name ∈ names := by
    simp only [List.mem_filterMap, Std.ExtTreeSet.mem_toList, h _ i]
    constructor
    · rintro ⟨_, hname, n, hn, rfl⟩
      exact ⟨n, hn, hname⟩
    · rintro ⟨n, hn, hname⟩
      exact ⟨n.name, hname, n, hn, rfl⟩
  have hascending : (names.toList.filterMap (a.index[·]?)).Pairwise fun i j =>
      ∀ m ∈ a.nodes[i]?, ∀ n ∈ a.nodes[j]?, m.name < n.name := by
    rw [List.pairwise_filterMap]
    refine names.sorted_toList.imp fun {name name'} hlt i hi j hj m hm n hn => ?_
    obtain ⟨m', hm', rfl⟩ := (h name i).mp hi
    obtain ⟨n', hn', rfl⟩ := (h name' j).mp hj
    rwa [Option.some.inj (hm.symm.trans hm'), Option.some.inj (hn.symm.trans hn')]
  refine ⟨hmem, hascending, hascending.imp_of_mem fun {i j} hi _ hlt => ?_⟩
  rintro rfl
  obtain ⟨n, hn, -⟩ := (hmem i).mp hi
  exact String.lt_irrefl _ (hlt n hn n hn)

/-- The preconditions of each rule are looked up. -/
lemma resolves_build (hn : n ∈ (build rs).nodes) :
    (build rs).Resolves n.rule.requiredTrue n.allOf ∧
      (build rs).Resolves n.rule.orRules n.anyOf := by
  obtain ⟨e, -, rfl⟩ := List.mem_map.mp hn
  exact ⟨indexed_build.resolves _, indexed_build.resolves _⟩

end Arena

/-! ### Rules by name -/

namespace RuleGraph

variable {rs : List Rule} {taken : NameSet} {name : String}

lemma find?_select (h : name ∉ taken) :
    ((select taken rs).find? fun e => e.1.name == name).map Prod.fst =
      rs.find? fun r => r.name = name ∧ r.Readable := by
  fun_induction select taken rs with
  | case1 => rfl
  | case2 taken r rs hr ih =>
      have hne : r.name ≠ name := fun heq => h (heq ▸ hr)
      rw [ih h, List.find?_cons_of_neg (by simp [hne])]
  | case3 taken r rs _ e he ih =>
      by_cases hname : r.name = name
      · have hread : r.Readable := ⟨e, he⟩
        rw [List.find?_cons_of_pos (by simp [hname]),
          List.find?_cons_of_pos (by simp [hname, hread])]
        rfl
      · rw [List.find?_cons_of_neg (by simp [hname]), List.find?_cons_of_neg (by simp [hname]), ih]
        simp [hname, h]
  | case4 taken r rs _ _ he ih =>
      have hread : ¬ r.Readable := Rule.not_readable_of_error he
      rw [ih h, List.find?_cons_of_neg (by simp [hread])]

/-- The rule that is found under a name is the first rule of this name that can be read. -/
theorem node?_ofRules (rs : List Rule) (name : String) :
    ((ofRules rs).node? name).map RuleNode.rule =
      rs.find? fun r => r.name = name ∧ r.Readable := by
  rw [← find?_select Std.ExtTreeSet.not_mem_empty, node?, ofRules, List.find?_map, Option.map_map]
  rfl

end RuleGraph

end SensorRules
