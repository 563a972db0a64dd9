import SensorRules.Proofs.Graph.Building

/-!
The books of an evaluation: each verdict that is found and kept is entered in a ledger beside the
cache, with the rule, its place and the setting, which may change from one query to the next.

* `Judgement`, `Ledger` and `Ledger.enter`: what is entered, and the one operation that writes to
  the cache;
* `Ledger.Grows`: entries are only made at empty places, and then the books stay right
  (`Ledger.Exact.of_grows`);
* `RuleGraph.visitIn`: a visit that keeps the books, and `RuleGraph.visitIn_booked`: it has the
  verdict and the cache of the visit without them, and its books grow so, since the place of a rule
  is still empty after the look at its preconditions;
* `RuleGraph.cacheAcross` and `RuleGraph.ledgerAcross`: the cache and the ledger of a session;
* `RuleGraph.judgesOnce_ofRules`: no rule is judged twice between two resets, and what was reported
  of it is reported again.
-/

namespace SensorRules

/-! ### Ledgers -/

/-- A verdict that is found: on which rule, and where it is entered, in which setting, and whether
the preconditions of the rule hold. -/
structure Judgement where
  position : Nat
  node : RuleNode
  setting : Setting
  holds : Bool

/-- The verdict; the expression of the rule is judged for it if the preconditions hold. -/
def Judgement.verdict (j : Judgement) : Verdict :=
  RuleGraph.nodeVerdict j.setting j.node j.holds

/-- A cache with all that was entered since a reset, the latest first. -/
structure Ledger where
  cache : Cache
  judgements : List Judgement

namespace Ledger

variable {g : RuleGraph} {l l' l'' : Ledger} {j : Judgement} {i : Nat} {v : Verdict}

/-- Nothing is entered. -/
def blank (g : RuleGraph) : Ledger :=
  ⟨g.emptyCache, []⟩

/-- A verdict is written to the cache. -/
def enter (l : Ledger) (j : Judgement) : Ledger :=
  ⟨l.cache.set j.position (some j.verdict), j :: l.judgements⟩

/-- From the first ledger to the second, each entry is made for a rule of the graph, at its place,
which is empty then. -/
inductive Grows (g : RuleGraph) (l : Ledger) : Ledger → Prop where
  /-- Nothing is entered. -/
  | refl : Grows g l l
  /-- One more verdict is entered. -/
  | enter {l' : Ledger} {j : Judgement} (h : Grows g l l')
      (empty : l'.cache.known? j.position = none) (rule : g.nodes[j.position]? = some j.node) :
      Grows g l (l'.enter j)

lemma Grows.trans (h : Grows g l l') (h' : Grows g l' l'') : Grows g l l'' := by
  induction h' with
  | refl => exact h
  | enter _ empty rule ih => exact ih.enter empty rule

/-- What is entered stays in the ledger. -/
lemma Grows.suffix (h : Grows g l l') : l.judgements <:+ l'.judgements := by
  induction h with
  | refl => exact List.suffix_rfl
  | enter _ _ _ ih => exact ih.trans (List.suffix_cons _ _)

/-- What is known stays known. -/
lemma Grows.known (h : Grows g l l') (hv : l.cache.known? i = some v) :
    l'.cache.known? i = some v := by
  induction h with
  | refl => exact hv
  | @enter l' j _ empty _ ih =>
      have hne : j.position ≠ i := by
        rintro rfl
        simp [empty] at ih
      exact (Cache.known?_set_of_ne hne).trans ih

/-- The books are right: just what is entered is known, and nothing is entered twice. -/
structure Exact (l : Ledger) (g : RuleGraph) : Prop where
  length_eq : l.cache.length = g.size
  rule_of : ∀ j ∈ l.judgements, g.nodes[j.position]? = some j.node
  known_iff : ∀ i v, l.cache.known? i = some v ↔
    ∃ j ∈ l.judgements, j.position = i ∧ j.verdict = v
  nodup : (l.judgements.map Judgement.position).Nodup

lemma exact_blank : (blank g).Exact g where
  length_eq := RuleGraph.length_emptyCache
  rule_of := by simp [blank]
  known_iff i v := by simp [blank, RuleGraph.known?_emptyCache]
  nodup := List.nodup_nil

/-- Nothing is entered yet for a place that is empty. -/
lemma Exact.notMem_of_empty (h : l.Exact g) (empty : l.cache.known? i = none) :
    i ∉ l.judgements.map Judgement.position := by
  intro hmem
  obtain ⟨j, hj, hposition⟩ := List.mem_map.mp hmem
  have hknown := (h.known_iff i j.verdict).mpr ⟨j, hj, hposition, rfl⟩
  simp [empty] at hknown

lemma Exact.enter (h : l.Exact g) (empty : l.cache.known? j.position = none)
    (rule : g.nodes[j.position]? = some j.node) : (l.enter j).Exact g where
  length_eq := by rw [Ledger.enter, List.length_set, h.length_eq]
  rule_of := List.forall_mem_cons.mpr ⟨rule, h.rule_of⟩
  known_iff i v := by
    have hlt : j.position < l.cache.length := h.length_eq ▸ RuleGraph.lt_size_of_node rule
    simp only [Ledger.enter, List.mem_cons, exists_eq_or_imp]
    rw [← h.known_iff]
    by_cases hi : j.position = i
    · subst hi
      rw [Cache.known?_set_self hlt, empty]
      simp
    · rw [Cache.known?_set_of_ne hi]
      simp [hi]
  nodup := List.nodup_cons.mpr ⟨h.notMem_of_empty empty, h.nodup⟩

lemma Exact.of_grows (h : l.Exact g) (hgrows : Grows g l l') : l'.Exact g := by
  induction hgrows with
  | refl => exact h
  | enter _ empty rule ih => exact ih.enter empty rule

end Ledger

namespace RuleGraph

variable {g : RuleGraph} {setting : Setting} {n : RuleNode} {l : Ledger} {i : Nat} {v : Verdict}
  {name : String}

/-! ### Evaluation with books -/

/-- `RuleGraph.allHold` with books. -/
def allHoldIn (visit : Nat → Ledger → Verdict × Ledger) : List Nat → Ledger → Bool × Ledger
  | [], l => (true, l)
  | i :: is, l =>
    let (v, l) := visit i l
    if v.ok then allHoldIn visit is l else (false, l)

/-- `RuleGraph.someHolds` with books. -/
def someHoldsIn (visit : Nat → Ledger → Verdict × Ledger) : List Nat → Ledger → Bool × Ledger
  | [], l => (false, l)
  | i :: is, l =>
    let (v, l) := visit i l
    if v.ok then (true, l) else someHoldsIn visit is l

/-- `RuleGraph.preconditionsHold` with books. -/
def preconditionsHoldIn (visit : Nat → Ledger → Verdict × Ledger) (n : RuleNode) (l : Ledger) :
    Bool × Ledger :=
  let (all, l) := allHoldIn visit n.allOf l
  if !all then (false, l)
  else if n.anyOf.isEmpty then (true, l)
  else someHoldsIn visit n.anyOf l

/-- `RuleGraph.visit` with books: a verdict that is found and kept is entered. -/
def visitIn (g : RuleGraph) (setting : Setting) :
    (depth : Nat) → (path : List Nat) → Nat → Ledger → Verdict × Ledger
  | 0, path, i, l => (g.loopVerdict path i, l)
  | depth + 1, path, i, l =>
    if path.contains i then (g.loopVerdict path i, l)
    else
      match l.cache.known? i, g.nodes[i]? with
      | some v, _ => (v, l)
      | none, none => (.violated ∅, l)
      | none, some n =>
        let (holds, l) := preconditionsHoldIn (g.visitIn setting depth (i :: path)) n l
        let j : Judgement := ⟨i, n, setting, holds⟩
        (j.verdict, l.enter j)

section Preconditions

variable {visit : Nat → Cache → Verdict × Cache} {visitL : Nat → Ledger → Verdict × Ledger}
  {js : List Nat}

lemma allHoldIn_cons {j : Nat} : allHoldIn visitL (j :: js) l =
    if (visitL j l).1.ok then allHoldIn visitL js (visitL j l).2
    else (false, (visitL j l).2) := rfl

lemma someHoldsIn_cons {j : Nat} : someHoldsIn visitL (j :: js) l =
    if (visitL j l).1.ok then (true, (visitL j l).2)
    else someHoldsIn visitL js (visitL j l).2 := rfl

lemma preconditionsHoldIn_eq : preconditionsHoldIn visitL n l =
    if !(allHoldIn visitL n.allOf l).1 then (false, (allHoldIn visitL n.allOf l).2)
    else if n.anyOf.isEmpty then (true, (allHoldIn visitL n.allOf l).2)
    else someHoldsIn visitL n.anyOf (allHoldIn visitL n.allOf l).2 := rfl

/-- An outcome with books is that without them, and the books have grown. -/
structure Booked {α : Type} (g : RuleGraph) (l : Ledger) (r : α × Ledger) (s : α × Cache) :
    Prop where
  value_eq : r.1 = s.1
  cache_eq : r.2.cache = s.2
  grows : Ledger.Grows g l r.2

lemma Booked.after {α : Type} {l' : Ledger} {r : α × Ledger} {s : α × Cache}
    (h : Booked g l' r s) (hgrows : Ledger.Grows g l l') : Booked g l r s :=
  ⟨h.value_eq, h.cache_eq, hgrows.trans h.grows⟩

lemma allHoldIn_booked (h : ∀ j l, Booked g l (visitL j l) (visit j l.cache)) :
    Booked g l (allHoldIn visitL js l) (allHold visit js l.cache) := by
  induction js generalizing l with
  | nil => exact ⟨rfl, rfl, .refl⟩
  | cons j js ih =>
      have hj := h j l
      rw [allHoldIn_cons, allHold_cons, hj.value_eq, ← hj.cache_eq]
      cases (visit j l.cache).1.ok with
      | true => exact ih.after hj.grows
      | false => exact ⟨rfl, rfl, hj.grows⟩

lemma someHoldsIn_booked (h : ∀ j l, Booked g l (visitL j l) (visit j l.cache)) :
    Booked g l (someHoldsIn visitL js l) (someHolds visit js l.cache) := by
  induction js generalizing l with
  | nil => exact ⟨rfl, rfl, .refl⟩
  | cons j js ih =>
      have hj := h j l
      rw [someHoldsIn_cons, someHolds_cons, hj.value_eq, ← hj.cache_eq]
      cases (visit j l.cache).1.ok with
      | true => exact ⟨rfl, rfl, hj.grows⟩
      | false => exact ih.after hj.grows

lemma preconditionsHoldIn_booked (h : ∀ j l, Booked g l (visitL j l) (visit j l.cache)) :
    Booked g l (preconditionsHoldIn visitL n l) (preconditionsHold visit n l.cache) := by
  have hall : Booked g l (allHoldIn visitL n.allOf l) (allHold visit n.allOf l.cache) :=
    allHoldIn_booked h
  rw [preconditionsHoldIn_eq, preconditionsHold_eq, hall.value_eq, ← hall.cache_eq]
  cases (allHold visit n.allOf l.cache).1 with
  | false => exact ⟨rfl, rfl, hall.grows⟩
  | true =>
      cases hnil : n.anyOf.isEmpty with
      | true => exact ⟨rfl, rfl, hall.grows⟩
      | false => exact (someHoldsIn_booked h).after hall.grows

end Preconditions

/-! ### Visits with books -/

section Visit

variable {depth : Nat} {path : List Nat}

lemma visitIn_of_mem (hi : i ∈ path) :
    g.visitIn setting depth path i l = (g.loopVerdict path i, l) := by
  cases depth with
  | zero => rfl
  | succ depth => rw [visitIn, if_pos (List.contains_iff_mem.mpr hi)]

lemma visitIn_of_known (hi : i ∉ path) (hv : l.cache.known? i = some v) :
    g.visitIn setting (depth + 1) path i l = (v, l) := by
  rw [visitIn, if_neg (fun hmem => hi (List.contains_iff_mem.mp hmem)), hv]

lemma visitIn_of_missing (hi : i ∉ path) (hv : l.cache.known? i = none)
    (hn : g.nodes[i]? = none) : g.visitIn setting (depth + 1) path i l = (.violated ∅, l) := by
  rw [visitIn, if_neg (fun hmem => hi (List.contains_iff_mem.mp hmem)), hv, hn]

/-- What is entered for a rule that is judged on the way. -/
def judgementIn (g : RuleGraph) (setting : Setting) (depth : Nat) (path : List Nat) (i : Nat)
    (n : RuleNode) (l : Ledger) : Judgement :=
  ⟨i, n, setting, (preconditionsHoldIn (g.visitIn setting depth (i :: path)) n l).1⟩

lemma visitIn_of_node (hi : i ∉ path) (hv : l.cache.known? i = none)
    (hn : g.nodes[i]? = some n) : g.visitIn setting (depth + 1) path i l =
      ((g.judgementIn setting depth path i n l).verdict,
        (preconditionsHoldIn (g.visitIn setting depth (i :: path)) n l).2.enter
          (g.judgementIn setting depth path i n l)) := by
  rw [visitIn, if_neg (fun hmem => hi (List.contains_iff_mem.mp hmem)), hv, hn]
  rfl

/-- **A visit only makes entries at empty places**, and apart from the books it is the visit
without them. -/
theorem visitIn_booked (depth : Nat) (path : List Nat) (i : Nat) (l : Ledger) :
    Booked g l (g.visitIn setting depth path i l) (g.visit setting depth path i l.cache) := by
  induction depth generalizing path i l with
  | zero => exact ⟨rfl, rfl, .refl⟩
  | succ depth ih =>
      by_cases hi : i ∈ path
      · rw [visitIn_of_mem hi, visit_of_mem hi]
        exact ⟨rfl, rfl, .refl⟩
      cases hv : l.cache.known? i with
      | some v =>
          rw [visitIn_of_known hi hv, visit_of_known hi hv]
          exact ⟨rfl, rfl, .refl⟩
      | none =>
          cases hn : g.nodes[i]? with
          | none =>
              rw [visitIn_of_missing hi hv hn, visit_of_missing hi hv hn]
              exact ⟨rfl, rfl, .refl⟩
          | some n =>
              have hlook : Booked g l
                  (preconditionsHoldIn (g.visitIn setting depth (i :: path)) n l)
                  (preconditionsHold (g.visit setting depth (i :: path)) n l.cache) :=
                preconditionsHoldIn_booked (ih (i :: path))
              have hext : Cache.Extends (i :: path) l.cache
                  (preconditionsHold (g.visit setting depth (i :: path)) n l.cache).2 :=
                preconditionsHold_extends (visit_extends depth (i :: path))
              rw [← hlook.cache_eq] at hext
              rw [visitIn_of_node hi hv hn, visit_of_node hi hv hn, ← hlook.value_eq,
                ← hlook.cache_eq]
              refine ⟨rfl, rfl, hlook.grows.enter ?_ hn⟩
              -- The rule is on the path of all that is visited meanwhile, so its place stays empty.
              exact (hext.on_path i List.mem_cons_self).trans hv

end Visit

/-! ### Sessions -/

/-- `RuleGraph.evaluateAt` with books. -/
def evaluateIn (g : RuleGraph) (setting : Setting) (i : Nat) (l : Ledger) : Ledger :=
  (g.visitIn setting (g.size + 1) [] i l).2

/-- `RuleGraph.ask` with books. They are begun anew for the verdicts on all rules. -/
def askIn (g : RuleGraph) (setting : Setting) : Query → Ledger → Ledger
  | .rule name, l =>
    match g.index? name with
    | some i => g.evaluateIn setting i l
    | none => l
  | .all, _ => (List.range g.size).foldl (fun l i => g.evaluateIn setting i l) (.blank g)

/-- The cache after queries, one after the other and each in a setting of its own, from a reset
on. -/
def cacheAcross (g : RuleGraph) (session : List (Setting × Query)) : Cache :=
  session.foldl (fun c q => (g.ask q.1 q.2 c).2) g.emptyCache

/-- The books after queries, with what was entered since the last reset. -/
def ledgerAcross (g : RuleGraph) (session : List (Setting × Query)) : Ledger :=
  session.foldl (fun l q => g.askIn q.1 q.2 l) (.blank g)

/-- Queries about single rules. -/
def single (calls : List (Setting × String)) : List (Setting × Query) :=
  calls.map fun e => (e.1, .rule e.2)

/-- Between two resets no rule is judged twice, and what was reported of a rule is reported again,
in whatever settings and order the rules are asked for. -/
structure JudgesOnce (g : RuleGraph) (session : List (Setting × Query)) : Prop where
  /-- The books are those of the cache. -/
  cache_eq : (g.ledgerAcross session).cache = g.cacheAcross session
  /-- There is a place for each rule. -/
  length_eq : (g.cacheAcross session).length = g.size
  /-- What is judged are the rules of the graph. -/
  rule_of : ∀ j ∈ (g.ledgerAcross session).judgements, g.nodes[j.position]? = some j.node
  /-- No place is written to twice since the last reset. -/
  once : ((g.ledgerAcross session).judgements.map Judgement.position).Nodup
  /-- What is known of a rule is the verdict that was written there. -/
  known_iff : ∀ i v, (g.cacheAcross session).known? i = some v ↔
    ∃ j ∈ (g.ledgerAcross session).judgements, j.position = i ∧ j.verdict = v
  /-- Later queries about single rules add to the books. -/
  added : ∀ calls, (g.ledgerAcross session).judgements <:+
    (g.ledgerAcross (session ++ single calls)).judgements
  /-- They leave what is known as it is. -/
  kept : ∀ calls i v, (g.cacheAcross session).known? i = some v →
    (g.cacheAcross (session ++ single calls)).known? i = some v
  /-- The verdict on a rule of the graph is reported, and is known then. -/
  answered : ∀ setting name i, g.index? name = some i → ∃ v c,
    g.evaluate? setting name (g.cacheAcross session) = some (v, c) ∧ c.known? i = some v
  /-- A verdict that is reported is reported again by each later query about the rule, and nothing
  is written for it. -/
  again : ∀ q name v, (g.ask q.1 q.2 (g.cacheAcross session)).1[name]? = some v →
    ∀ calls setting,
      g.evaluate? setting name (g.cacheAcross (session ++ q :: single calls)) =
        some (v, g.cacheAcross (session ++ q :: single calls))
  /-- Nothing is reported and nothing changes for a name that is not in the graph. -/
  unknown : ∀ setting name, g.index? name = none →
    g.evaluate? setting name (g.cacheAcross session) = none ∧
      g.ledgerAcross (session ++ [(setting, .rule name)]) = g.ledgerAcross session
  /-- For all rules one begins as after a reset. -/
  anew : ∀ setting, g.cacheAcross (session ++ [(setting, .all)]) =
    (g.evaluateEach setting (List.range g.size) (g.cacheAcross [])).2
  /-- After a reset all places are empty. -/
  reset : ∀ i < g.size, (g.cacheAcross [])[i]? = some none

section Session

variable {session : List (Setting × Query)}

lemma evaluateIn_grows : Ledger.Grows g l (g.evaluateIn setting i l) :=
  (visitIn_booked _ _ _ _).grows

lemma cache_evaluateIn :
    (g.evaluateIn setting i l).cache = (g.evaluateAt setting i l.cache).2 :=
  (visitIn_booked _ _ _ _).cache_eq

lemma foldl_evaluateIn_grows {is : List Nat} :
    Ledger.Grows g l (is.foldl (fun l i => g.evaluateIn setting i l) l) := by
  induction is generalizing l with
  | nil => exact .refl
  | cons i is ih => exact evaluateIn_grows.trans ih

lemma cache_foldl_evaluateIn {is : List Nat} :
    (is.foldl (fun l i => g.evaluateIn setting i l) l).cache =
      (g.evaluateEach setting is l.cache).2 := by
  induction is generalizing l with
  | nil => rfl
  | cons i is ih => rw [List.foldl_cons, ih, cache_evaluateIn, evaluateEach_cons]

lemma cache_askIn (q : Query) : (g.askIn setting q l).cache = (g.ask setting q l.cache).2 := by
  cases q with
  | rule name =>
      rw [askIn, ask, evaluate?]
      cases g.index? name with
      | none => rfl
      | some i => exact cache_evaluateIn
  | all => exact cache_foldl_evaluateIn

lemma askIn_rule_grows (name : String) : Ledger.Grows g l (g.askIn setting (.rule name) l) := by
  rw [askIn]
  cases g.index? name with
  | none => exact .refl
  | some i => exact evaluateIn_grows

lemma exact_askIn (h : l.Exact g) (q : Query) : (g.askIn setting q l).Exact g := by
  cases q with
  | rule name => exact h.of_grows (askIn_rule_grows name)
  | all => exact Ledger.exact_blank.of_grows foldl_evaluateIn_grows

lemma cache_ledgerAcross : (g.ledgerAcross session).cache = g.cacheAcross session := by
  have key : ∀ l : Ledger, (session.foldl (fun l q => g.askIn q.1 q.2 l) l).cache =
      session.foldl (fun c q => (g.ask q.1 q.2 c).2) l.cache := by
    induction session with
    | nil => exact fun l => rfl
    | cons q session ih =>
        intro l
        rw [List.foldl_cons, List.foldl_cons, ih, cache_askIn]
  exact key (.blank g)

lemma exact_ledgerAcross : (g.ledgerAcross session).Exact g := by
  have key : ∀ l : Ledger, l.Exact g →
      (session.foldl (fun l q => g.askIn q.1 q.2 l) l).Exact g := by
    induction session with
    | nil => exact fun l h => h
    | cons q session ih => exact fun l h => ih _ (exact_askIn h q.2)
  exact key _ Ledger.exact_blank

lemma ledgerAcross_single_grows (calls : List (Setting × String)) :
    Ledger.Grows g (g.ledgerAcross session) (g.ledgerAcross (session ++ single calls)) := by
  have key : ∀ l : Ledger,
      Ledger.Grows g l ((single calls).foldl (fun l q => g.askIn q.1 q.2 l) l) := by
    induction calls with
    | nil => exact fun l => .refl
    | cons e calls ih => exact fun l => (askIn_rule_grows e.2).trans (ih _)
  rw [ledgerAcross, ledgerAcross, List.foldl_append]
  exact key _

lemma known?_cacheAcross_single (calls : List (Setting × String))
    (hv : (g.cacheAcross session).known? i = some v) :
    (g.cacheAcross (session ++ single calls)).known? i = some v := by
  rw [← cache_ledgerAcross] at hv ⊢
  exact (ledgerAcross_single_grows calls).known hv

lemma cacheAcross_concat {q : Setting × Query} :
    g.cacheAcross (session ++ [q]) = (g.ask q.1 q.2 (g.cacheAcross session)).2 := by
  rw [cacheAcross, List.foldl_append]
  rfl

/-- What is known of a rule is what is said of it. -/
lemma evaluate?_of_known {c : Cache} (hidx : g.index? name = some i) (hv : c.known? i = some v) :
    g.evaluate? setting name c = some (v, c) := by
  rw [evaluate?, hidx, Option.map_some, evaluateAt, visit_of_known List.not_mem_nil hv]

/-- With distinct names, a verdict that is reported is known after the query. -/
lemma Distinct.known?_of_ask (distinct : g.Distinct) {c : Cache} (hc : c.length = g.size)
    {q : Query} (hv : (g.ask setting q c).1[name]? = some v) :
    ∃ i, g.index? name = some i ∧ (g.ask setting q c).2.known? i = some v := by
  obtain ⟨i, n, d, hn, hname, hd, rfl, hext⟩ :=
    RuleGraph.exists_of_ask (I := fun c => c.length = g.size) length_emptyCache
      (fun _ _ hd => evaluateAt_extends.length_eq.trans hd) hc hv
  exact ⟨i, distinct.index?_eq_some_iff.mpr ⟨n, hn, hname⟩,
    hext.known i _ (known?_evaluateAt (lt_size_of_node hn) hd)⟩

end Session

/-- **No rule is judged twice between two resets**: in a graph that is built, and after any session,
each place is written to at most once since the last reset, what is written there stays, and every
query about the rule reports it. -/
theorem judgesOnce_ofRules (rs : List Rule) (session : List (Setting × Query)) :
    (ofRules rs).JudgesOnce session := by
  have exact : ((ofRules rs).ledgerAcross session).Exact (ofRules rs) := exact_ledgerAcross
  have length_eq : ((ofRules rs).cacheAcross session).length = (ofRules rs).size := by
    rw [← cache_ledgerAcross]
    exact exact.length_eq
  refine
    { cache_eq := cache_ledgerAcross
      length_eq := length_eq
      rule_of := exact.rule_of
      once := exact.nodup
      known_iff := fun i v => by rw [← cache_ledgerAcross]; exact exact.known_iff i v
      added := fun calls => (ledgerAcross_single_grows calls).suffix
      kept := fun calls i v => known?_cacheAcross_single calls
      answered := ?answered
      again := ?again
      unknown := ?unknown
      anew := fun setting => cacheAcross_concat
      reset := ?reset }
  case answered =>
    intro setting name i hidx
    obtain ⟨n, hn, -⟩ := node_of_index? hidx
    refine ⟨_, _, by rw [evaluate?, hidx, Option.map_some], ?_⟩
    exact known?_evaluateAt (lt_size_of_node hn) length_eq
  case again =>
    intro q name v hv calls setting
    obtain ⟨i, hidx, hknown⟩ := distinct_ofRules.known?_of_ask length_eq hv
    rw [← cacheAcross_concat] at hknown
    have hlater := known?_cacheAcross_single calls hknown
    rw [List.append_assoc, List.singleton_append] at hlater
    exact evaluate?_of_known hidx hlater
  case unknown =>
    intro setting name hidx
    refine ⟨by rw [evaluate?, hidx, Option.map_none], ?_⟩
    rw [ledgerAcross, List.foldl_append, List.foldl_cons, List.foldl_nil, askIn, hidx]
    rfl
  case reset =>
    intro i hi
    rw [cacheAcross, List.foldl_nil, emptyCache, List.getElem?_replicate, if_pos hi]

/-- Round a loop, too: `a` is met again under `b`, and is judged once, as the last. -/
example :
    ((ofRules [.gate "a" "" ["b"] [], .gate "b" "" [] ["a", "c"], .gate "c" "" [] []]).ledgerAcross
        [(.bare, .rule "b"), (.bare, .all), (.bare, .rule "a")]).judgements.map
      Judgement.position = [0, 1, 2] := by
  decide

end RuleGraph

end SensorRules
