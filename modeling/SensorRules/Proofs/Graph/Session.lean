import SensorRules.Proofs.Graph.Visit
import SensorRules.Proofs.Names

/-!
What is asked of a graph between two resets, in any order: single rules, and all of them at once.

* `Query`, with `RuleGraph.ask` and `RuleGraph.cacheAfter`: the verdicts by name that a query
  reports, and the cache after a sequence of queries;
* `RuleGraph.cacheAfter_induction`: what every evaluation keeps holds after every sequence;
* `RuleGraph.exists_of_ask`: every verdict that is reported is that of one evaluation on the way;
* `RuleGraph.Distinct`: no two rules of the graph have one name, and then a rule is found under its
  name (`index?_eq_some_iff`) and so is its verdict (`exists_of_evaluateAll`).
-/

namespace SensorRules

/-- What may be asked of a graph. -/
inductive Query where
  /-- The verdict on the rule with a name. -/
  | rule (name : String)
  /-- The verdicts on all rules, found anew. -/
  | all
deriving DecidableEq, Repr

namespace RuleGraph

variable {g : RuleGraph} {setting : Setting} {I : Cache → Prop} {c : Cache} {i : Nat} {v : Verdict}
  {is : List Nat} {name : String}

/-- The verdicts by name that a query reports, and the cache afterwards. -/
def ask (g : RuleGraph) (setting : Setting) : Query → Cache → NameTable Verdict × Cache
  | .rule name, c =>
    match g.evaluate? setting name c with
    | some (v, c) => ((∅ : NameTable Verdict).insert name v, c)
    | none => (∅, c)
  | .all, _ => g.evaluateAll setting

/-- The cache after queries, one after the other, from a reset on. -/
def cacheAfter (g : RuleGraph) (setting : Setting) (queries : List Query) : Cache :=
  queries.foldl (fun c q => (g.ask setting q c).2) g.emptyCache

/-- No two rules have one name. -/
def Distinct (g : RuleGraph) : Prop :=
  (g.nodes.map RuleNode.name).Nodup

/-! ### Rules by name -/

lemma nameAt_of_node {n : RuleNode} (hn : g.nodes[i]? = some n) : g.nameAt i = n.name := by
  simp [nameAt, hn]

lemma map_nameAt_range : (List.range g.size).map g.nameAt = g.nodes.map RuleNode.name := by
  refine List.ext_getElem (by simp [size]) fun i _ h => ?_
  have hi : i < g.nodes.length := by simpa using h
  simp [nameAt, List.getElem?_eq_getElem hi]

lemma node_of_index? (h : g.index? name = some i) :
    ∃ n, g.nodes[i]? = some n ∧ n.name = name := by
  obtain ⟨hi, hname, -⟩ := List.findIdx?_eq_some_iff_getElem.mp h
  exact ⟨g.nodes[i], List.getElem?_eq_getElem hi, by simpa using hname⟩

lemma Distinct.index_unique (h : g.Distinct) {j : Nat} {m n : RuleNode}
    (hm : g.nodes[i]? = some m) (hn : g.nodes[j]? = some n) (hname : m.name = n.name) : i = j := by
  have hi : (g.nodes.map RuleNode.name)[i]? = some n.name := by simp [hm, hname]
  have hj : (g.nodes.map RuleNode.name)[j]? = some n.name := by simp [hn]
  exact (List.getElem?_inj (by simpa [size] using lt_size_of_node hm) h).mp (hi.trans hj.symm)

lemma Distinct.index?_eq_some_iff (h : g.Distinct) :
    g.index? name = some i ↔ ∃ n, g.nodes[i]? = some n ∧ n.name = name := by
  refine ⟨node_of_index?, fun ⟨n, hn, hname⟩ => ?_⟩
  cases hidx : g.index? name with
  | none =>
      have hmem := List.mem_of_getElem? hn
      have hno := List.findIdx?_eq_none_iff.mp hidx n hmem
      simp [hname] at hno
  | some j =>
      obtain ⟨m, hm, hname'⟩ := node_of_index? hidx
      rw [h.index_unique hm hn (hname'.trans hname.symm)]

lemma Distinct.eq_of_name (h : g.Distinct) {m n : RuleNode} (hm : m ∈ g.nodes) (hn : n ∈ g.nodes)
    (hname : m.name = n.name) : m = n :=
  List.inj_on_of_nodup_map h hm hn hname

lemma mem_of_node? {n : RuleNode} (h : g.node? name = some n) : n ∈ g.nodes :=
  List.mem_of_find?_eq_some h

lemma name_of_node? {n : RuleNode} (h : g.node? name = some n) : n.name = name := by
  simpa using List.find?_some h

lemma Distinct.node?_of_mem (h : g.Distinct) {n : RuleNode} (hn : n ∈ g.nodes) :
    g.node? n.name = some n := by
  cases hfind : g.node? n.name with
  | none => simpa using List.find?_eq_none.mp hfind n hn
  | some m => rw [h.eq_of_name (mem_of_node? hfind) hn (name_of_node? hfind)]

/-- The rule with a name is the one at the position of the name. -/
lemma node?_eq_bind : g.node? name = (g.index? name).bind (g.nodes[·]?) :=
  List.find?_eq_bind_findIdx?_getElem?

/-! ### Evaluations one after the other -/

lemma evaluateEach_cons : g.evaluateEach setting (i :: is) c =
    ((i, (g.evaluateAt setting i c).1) ::
        (g.evaluateEach setting is (g.evaluateAt setting i c).2).1,
      (g.evaluateEach setting is (g.evaluateAt setting i c).2).2) := rfl

lemma evaluateAt_extends : Cache.Extends [] c (g.evaluateAt setting i c).2 :=
  visit_extends _ _ _ _

lemma known?_evaluateAt (hi : i < g.size) (hc : c.length = g.size) :
    (g.evaluateAt setting i c).2.known? i = some (g.evaluateAt setting i c).1 :=
  known?_visit List.not_mem_nil hi hc

lemma evaluateEach_extends : Cache.Extends [] c (g.evaluateEach setting is c).2 := by
  induction is generalizing c with
  | nil => exact .refl
  | cons i is ih => exact evaluateAt_extends.trans ih

lemma map_fst_evaluateEach : (g.evaluateEach setting is c).1.map Prod.fst = is := by
  induction is generalizing c with
  | nil => rfl
  | cons i is ih => rw [evaluateEach_cons, List.map_cons, ih]

lemma names_evaluateEach :
    ((g.evaluateEach setting is c).1.map fun e => (g.nameAt e.1, e.2)).map Prod.fst =
      is.map g.nameAt := by
  rw [List.map_map]
  induction is generalizing c with
  | nil => rfl
  | cons i is ih => rw [evaluateEach_cons, List.map_cons, ih, List.map_cons]; rfl

lemma evaluateEach_keeps (h : ∀ i c, I c → I (g.evaluateAt setting i c).2) (hc : I c) :
    I (g.evaluateEach setting is c).2 := by
  induction is generalizing c with
  | nil => exact hc
  | cons i is ih => exact ih (h i c hc)

/-- Each verdict of a sequence of evaluations is found from a cache with the invariant, and what is
known then is known at the end. -/
lemma exists_of_mem_evaluateEach (h : ∀ i c, I c → I (g.evaluateAt setting i c).2) (hc : I c)
    (hv : (i, v) ∈ (g.evaluateEach setting is c).1) :
    ∃ d, I d ∧ (g.evaluateAt setting i d).1 = v ∧
      Cache.Extends [] (g.evaluateAt setting i d).2 (g.evaluateEach setting is c).2 := by
  induction is generalizing c with
  | nil => simp [evaluateEach] at hv
  | cons j is ih =>
      rw [evaluateEach_cons] at hv ⊢
      rcases List.mem_cons.mp hv with heq | hv
      · obtain ⟨rfl, rfl⟩ := Prod.mk.inj heq
        exact ⟨c, hc, rfl, evaluateEach_extends⟩
      · exact ih (h j c hc) hv

/-! ### Queries -/

lemma ask_keeps (h0 : I g.emptyCache) (h : ∀ i c, I c → I (g.evaluateAt setting i c).2) (hc : I c)
    (q : Query) : I (g.ask setting q c).2 := by
  cases q with
  | rule name =>
      rw [ask, evaluate?]
      cases g.index? name with
      | none => exact hc
      | some i => exact h i c hc
  | all => exact evaluateEach_keeps h h0

/-- What holds of the cache in which nothing is known and is kept by every evaluation holds after
every sequence of queries. -/
theorem cacheAfter_induction (h0 : I g.emptyCache)
    (h : ∀ i c, I c → I (g.evaluateAt setting i c).2) (queries : List Query) :
    I (g.cacheAfter setting queries) := by
  have key : ∀ c, I c → I (queries.foldl (fun c q => (g.ask setting q c).2) c) := by
    induction queries with
    | nil => exact fun c hc => hc
    | cons q queries ih => exact fun c hc => ih _ (ask_keeps h0 h hc q)
  exact key _ h0

/-- Every verdict that a query reports of a name is that of one evaluation of a rule of this name,
from a cache with the invariant, and what is known then is known after the query. -/
theorem exists_of_ask (h0 : I g.emptyCache) (h : ∀ i c, I c → I (g.evaluateAt setting i c).2)
    (hc : I c) {q : Query} (hv : (g.ask setting q c).1[name]? = some v) :
    ∃ i n d, g.nodes[i]? = some n ∧ n.name = name ∧ I d ∧ (g.evaluateAt setting i d).1 = v ∧
      Cache.Extends [] (g.evaluateAt setting i d).2 (g.ask setting q c).2 := by
  cases q with
  | rule asked =>
      rw [ask, evaluate?] at hv ⊢
      cases hidx : g.index? asked with
      | none => simp [hidx] at hv
      | some i =>
          obtain ⟨n, hn, hname⟩ := node_of_index? hidx
          simp only [hidx, Option.map_some, NameTable.getElem?_insert,
            Std.ExtTreeMap.getElem?_empty, Option.ite_none_right_eq_some, Option.some.injEq] at hv
          obtain ⟨rfl, hverdict⟩ := hv
          exact ⟨i, n, c, hn, hname, hc, hverdict, .refl⟩
  | all =>
      obtain ⟨⟨i, w⟩, hmem, heq⟩ := List.mem_map.mp (NameTable.mem_of_getElem?_ofList hv)
      obtain ⟨hname, rfl⟩ := Prod.mk.inj heq
      have hi : i < g.size := by
        have hfst := List.mem_map_of_mem (f := Prod.fst) hmem
        rw [map_fst_evaluateEach] at hfst
        exact List.mem_range.mp hfst
      obtain ⟨n, hn⟩ := exists_node hi
      obtain ⟨d, hd, hverdict, hext⟩ := exists_of_mem_evaluateEach h h0 hmem
      exact ⟨i, n, d, hn, (nameAt_of_node hn).symm.trans hname, hd, hverdict, hext⟩

/-- With distinct names, the verdicts on all rules have one on each rule under its name. -/
lemma Distinct.exists_of_evaluateAll (distinct : g.Distinct) (hidx : g.index? name = some i) :
    ∃ v, (i, v) ∈ (g.evaluateEach setting (List.range g.size) g.emptyCache).1 ∧
      (g.evaluateAll setting).1[name]? = some v := by
  obtain ⟨n, hn, hname⟩ := node_of_index? hidx
  have hmem : i ∈ (g.evaluateEach setting (List.range g.size) g.emptyCache).1.map Prod.fst := by
    rw [map_fst_evaluateEach]
    exact List.mem_range.mpr (lt_size_of_node hn)
  obtain ⟨⟨j, v⟩, hv, rfl⟩ := List.mem_map.mp hmem
  refine ⟨v, hv, NameTable.getElem?_ofList_of_mem ?_ ?_⟩
  · rw [names_evaluateEach, map_nameAt_range]
    exact distinct
  · rw [← hname, ← nameAt_of_node hn]
    exact List.mem_map_of_mem (f := fun e => (g.nameAt e.1, e.2)) hv

lemma getElem?_evaluateAll_of_index?_none (hidx : g.index? name = none) :
    (g.evaluateAll setting).1[name]? = none := by
  refine NameTable.getElem?_ofList_of_notMem ?_
  rw [names_evaluateEach, map_nameAt_range]
  intro hmem
  obtain ⟨n, hn, hname⟩ := List.mem_map.mp hmem
  have hno := List.findIdx?_eq_none_iff.mp hidx n hn
  simp [hname] at hno

/-- With distinct names, a query about a rule of the graph reports a verdict on it. -/
lemma Distinct.exists_report (distinct : g.Distinct) {n : RuleNode} (hn : g.nodes[i]? = some n)
    {q : Query} (hq : q = .rule n.name ∨ q = .all) (c : Cache) :
    ∃ v, (g.ask setting q c).1[n.name]? = some v := by
  have hidx := distinct.index?_eq_some_iff.mpr ⟨n, hn, rfl⟩
  rcases hq with rfl | rfl
  · refine ⟨(g.evaluateAt setting i c).1, ?_⟩
    simp [ask, evaluate?, hidx]
  · obtain ⟨v, -, hv⟩ : ∃ v, _ ∧ (g.evaluateAll setting).1[n.name]? = some v :=
      distinct.exists_of_evaluateAll hidx
    exact ⟨v, hv⟩

/-- With distinct names, the verdict that a query reports of a rule is that of one evaluation of it,
and what is known then is known after the query. -/
lemma Distinct.exists_of_ask (distinct : g.Distinct) {n : RuleNode} (hn : g.nodes[i]? = some n)
    (h0 : I g.emptyCache) (h : ∀ i c, I c → I (g.evaluateAt setting i c).2) (hc : I c) {q : Query}
    (hv : (g.ask setting q c).1[n.name]? = some v) :
    ∃ d, I d ∧ (g.evaluateAt setting i d).1 = v ∧
      Cache.Extends [] (g.evaluateAt setting i d).2 (g.ask setting q c).2 := by
  obtain ⟨j, m, d, hm, hname, hd, hverdict, hext⟩ := RuleGraph.exists_of_ask h0 h hc hv
  obtain rfl := distinct.index_unique hm hn hname
  exact ⟨d, hd, hverdict, hext⟩

end RuleGraph

end SensorRules
