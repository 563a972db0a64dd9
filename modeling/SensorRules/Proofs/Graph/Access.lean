import SensorRules.Proofs.Graph.Arena

/-!
Requests to a graph that is stored, in which each access to a position is checked.

* `Arena.node`, `Arena.known`, `Arena.enter`: the accesses, and `Arena.Fault`: how they fail;
* `Arena.visit`: the verdict at a position, found with them;
* `Arena.Request`, with `Arena.answer` and `Arena.serve`: requests, each with its answer, and one
  after the other; `RuleGraph.answer` and `RuleGraph.serve`: the same with the graph alone;
* `Arena.Follows`: an evaluation with checked accesses succeeds, and does what one without them
  does; so does each visit (`Arena.visit_follows`) and each request (`Arena.answer_follows`), and so
  do requests one after the other (`Arena.serve_put`);
* `Arena.build_inOrder`: what is stored is in order, and no request fails.
-/

namespace SensorRules

namespace Arena

/-! ### Checked accesses -/

/-- How an evaluation can fail. -/
inductive Fault where
  /-- There is no rule at a position. -/
  | noRule (i : Nat)
  /-- There is no place for the verdict at a position. -/
  | noPlace (i : Nat)
  /-- The evaluation goes deeper than there are rules. -/
  | tooDeep
deriving DecidableEq, Repr

/-- The rule at a position. -/
def node (a : Arena) (i : Nat) : Except Fault RuleNode :=
  match a.nodes[i]? with
  | some n => .ok n
  | none => .error (.noRule i)

/-- The verdict at a position, if it is known. -/
def known (a : Arena) (i : Nat) : Except Fault (Option Verdict) :=
  match a.cache[i]? with
  | some v => .ok v
  | none => .error (.noPlace i)

/-- The verdict at a position is entered. -/
def enter (a : Arena) (i : Nat) (v : Verdict) : Except Fault Arena :=
  if i < a.cache.length then .ok { a with cache := a.cache.set i (some v) }
  else .error (.noPlace i)

/-! ### Evaluation -/

/-- `RuleGraph.loopVerdict` with checked accesses. -/
def loopVerdict (a : Arena) (path : List Nat) (i : Nat) : Except Fault Verdict := do
  let n ← a.node i
  let sensors ← path.foldlM (fun names j => do
    let m ← a.node j
    return names.union m.rule.sensorNames) n.rule.sensorNames
  return .violated sensors

/-- `RuleGraph.allHold` with checked accesses. -/
def allHold (visit : Nat → Arena → Except Fault (Verdict × Arena)) :
    List Nat → Arena → Except Fault (Bool × Arena)
  | [], a => .ok (true, a)
  | i :: is, a => do
    let (v, a) ← visit i a
    if v.ok then allHold visit is a else return (false, a)

/-- `RuleGraph.someHolds` with checked accesses. -/
def someHolds (visit : Nat → Arena → Except Fault (Verdict × Arena)) :
    List Nat → Arena → Except Fault (Bool × Arena)
  | [], a => .ok (false, a)
  | i :: is, a => do
    let (v, a) ← visit i a
    if v.ok then return (true, a) else someHolds visit is a

/-- `RuleGraph.preconditionsHold` with checked accesses. -/
def preconditionsHold (visit : Nat → Arena → Except Fault (Verdict × Arena)) (i : Nat) (a : Arena) :
    Except Fault (Bool × Arena) := do
  let n ← a.node i
  let (all, a) ← allHold visit n.allOf a
  if !all then return (false, a)
  else
    let n ← a.node i
    if n.anyOf.isEmpty then return (true, a) else someHolds visit n.anyOf a

/-- `RuleGraph.visit` with checked accesses. It may not go deeper than it is allowed. -/
def visit (setting : Setting) : (depth : Nat) → (path : List Nat) → Nat → Arena →
    Except Fault (Verdict × Arena)
  | 0, _, _, _ => .error .tooDeep
  | depth + 1, path, i, a => do
    if path.contains i then return (← a.loopVerdict path i, a)
    else
      match ← a.known i with
      | some v => return (v, a)
      | none =>
        let (holds, a) ← preconditionsHold (visit setting depth (i :: path)) i a
        let n ← a.node i
        let v := RuleGraph.nodeVerdict setting n holds
        return (v, ← a.enter i v)

/-- `RuleGraph.evaluateAt` with checked accesses. -/
def evaluateAt (setting : Setting) (i : Nat) (a : Arena) : Except Fault (Verdict × Arena) :=
  visit setting (a.nodes.length + 1) [] i a

/-- `RuleGraph.evaluateEach` with checked accesses, and with the names of the rules. -/
def evaluateEach (setting : Setting) :
    List Nat → Arena → Except Fault (List (String × Verdict) × Arena)
  | [], a => .ok ([], a)
  | i :: is, a => do
    let (v, a) ← evaluateAt setting i a
    let n ← a.node i
    let (vs, a) ← evaluateEach setting is a
    return ((n.name, v) :: vs, a)

/-- Nothing is known any more. -/
def reset (a : Arena) : Arena :=
  { a with cache := a.cache.map fun _ => none }

/-! ### Requests -/

/-- What may be asked of a graph that is stored. -/
inductive Request where
  /-- The verdict on the rule with a name. -/
  | evaluate (setting : Setting) (name : String)
  /-- The verdicts on all rules, found anew. -/
  | evaluateAll (setting : Setting)
  /-- The rule with a name. -/
  | rule (name : String)
  /-- To forget the verdicts. -/
  | reset

/-- What is answered. -/
inductive Answer where
  | verdict (v : Option Verdict)
  | verdicts (vs : NameTable Verdict)
  | rule (n : Option RuleNode)
  | done

/-- A request is answered with checked accesses. -/
def answer : Request → Arena → Except Fault (Answer × Arena)
  | .evaluate setting name, a =>
    match a.index[name]? with
    | none => .ok (.verdict none, a)
    | some i => do
      let (v, a) ← evaluateAt setting i a
      return (.verdict (some v), a)
  | .evaluateAll setting, a => do
    let (vs, a) ← evaluateEach setting (List.range a.nodes.length) a.reset
    return (.verdicts (Std.ExtTreeMap.ofList vs), a)
  | .rule name, a =>
    match a.index[name]? with
    | none => .ok (.rule none, a)
    | some i => do return (.rule (some (← a.node i)), a)
  | .reset, a => .ok (.done, a.reset)

/-- Requests are answered, one after the other. -/
def serve (requests : List Request) (a : Arena) : Except Fault Arena :=
  requests.foldlM (fun a request => do return (← answer request a).2) a

end Arena

open Arena (Request Answer)

namespace RuleGraph

/-- A request is answered by the graph alone. -/
def answer (g : RuleGraph) : Request → Cache → Answer × Cache
  | .evaluate setting name, c =>
    match g.evaluate? setting name c with
    | some (v, c) => (.verdict (some v), c)
    | none => (.verdict none, c)
  | .evaluateAll setting, _ =>
    let (vs, c) := g.evaluateAll setting
    (.verdicts vs, c)
  | .rule name, c => (.rule (g.node? name), c)
  | .reset, _ => (.done, g.emptyCache)

/-- The cache after requests that are answered one after the other. -/
def serve (g : RuleGraph) (requests : List Request) (c : Cache) : Cache :=
  requests.foldl (fun c request => (g.answer request c).2) c

end RuleGraph

namespace Arena

variable {α β : Type} {a : Arena} {n : RuleNode} {c : Cache} {i : Nat} {setting : Setting}

/-- The arena with another cache. -/
def put (a : Arena) (c : Cache) : Arena :=
  { a with cache := c }

/-! ### Accesses in range -/

lemma node_put_bind {f : RuleNode → Except Fault β} (hn : a.nodes[i]? = some n) :
    (a.put c).node i >>= f = f n := by
  rw [node, put, hn]
  rfl

lemma known_put_bind {f : Option Verdict → Except Fault β} (hi : i < c.length) :
    (a.put c).known i >>= f = f (c.known? i) := by
  rw [known, put, Cache.known?, List.getElem?_eq_getElem hi]
  rfl

lemma enter_put_bind {v : Verdict} {f : Arena → Except Fault β} (hi : i < c.length) :
    (a.put c).enter i v >>= f = f (a.put (c.set i (some v))) := by
  have henter : (a.put c).enter i v = .ok (a.put (c.set i (some v))) := if_pos hi
  rw [henter]
  rfl

lemma loopVerdict_put {path : List Nat} (hi : i < a.graph.size)
    (hpath : ∀ k ∈ path, k < a.graph.size) :
    (a.put c).loopVerdict path i = .ok (a.graph.loopVerdict path i) := by
  have hsensors {j : Nat} {m : RuleNode} (hm : a.nodes[j]? = some m) :
      a.graph.sensorsAt j = m.rule.sensorNames := by
    simp [RuleGraph.sensorsAt, graph, hm]
  have hfold (names : NameSet) : path.foldlM (fun names j => do
      let m ← (a.put c).node j
      return names.union m.rule.sensorNames) names =
        Except.ok (path.foldl (fun names j => names.union (a.graph.sensorsAt j)) names) := by
    induction path generalizing names with
    | nil => rfl
    | cons j path ih =>
        obtain ⟨m, hm⟩ := RuleGraph.exists_node (hpath j List.mem_cons_self)
        rw [List.foldlM_cons, node_put_bind hm, List.foldl_cons, hsensors hm]
        exact ih (fun k hk => hpath k (List.mem_cons_of_mem j hk)) _
  obtain ⟨n, hn⟩ := RuleGraph.exists_node hi
  rw [loopVerdict, node_put_bind hn, RuleGraph.loopVerdict, hsensors hn, hfold]
  rfl

/-! ### Evaluations that succeed -/

/-- An evaluation with checked accesses succeeds, and does in the arena what one without them does
with the cache. -/
def Follows (a : Arena) (r : Except Fault (α × Arena)) (s : α × Cache) : Prop :=
  r = .ok (s.1, a.put s.2) ∧ s.2.length = a.graph.size

lemma Follows.bind {r : Except Fault (α × Arena)} {s : α × Cache}
    {f : α × Arena → Except Fault (β × Arena)} {t : β × Cache} (h : a.Follows r s)
    (hf : s.2.length = a.graph.size → a.Follows (f (s.1, a.put s.2)) t) :
    a.Follows (r >>= f) t := by
  obtain ⟨rfl, hlength⟩ := h
  exact hf hlength

section Preconditions

variable {visitA : Nat → Arena → Except Fault (Verdict × Arena)}
  {visitC : Nat → Cache → Verdict × Cache} {js : List Nat}

lemma allHold_follows
    (h : ∀ j ∈ js, ∀ c, c.length = a.graph.size → a.Follows (visitA j (a.put c)) (visitC j c))
    (hc : c.length = a.graph.size) :
    a.Follows (allHold visitA js (a.put c)) (RuleGraph.allHold visitC js c) := by
  induction js generalizing c with
  | nil => exact ⟨rfl, hc⟩
  | cons j js ih =>
      rw [RuleGraph.allHold_cons]
      refine (h j List.mem_cons_self c hc).bind fun hlength => ?_
      dsimp only
      split
      · exact ih (fun k hk => h k (List.mem_cons_of_mem j hk)) hlength
      · exact ⟨rfl, hlength⟩

lemma someHolds_follows
    (h : ∀ j ∈ js, ∀ c, c.length = a.graph.size → a.Follows (visitA j (a.put c)) (visitC j c))
    (hc : c.length = a.graph.size) :
    a.Follows (someHolds visitA js (a.put c)) (RuleGraph.someHolds visitC js c) := by
  induction js generalizing c with
  | nil => exact ⟨rfl, hc⟩
  | cons j js ih =>
      rw [RuleGraph.someHolds_cons]
      refine (h j List.mem_cons_self c hc).bind fun hlength => ?_
      dsimp only
      split
      · exact ⟨rfl, hlength⟩
      · exact ih (fun k hk => h k (List.mem_cons_of_mem j hk)) hlength

lemma preconditionsHold_follows (hn : a.nodes[i]? = some n)
    (h : ∀ j, j ∈ n.allOf ∨ j ∈ n.anyOf → ∀ c, c.length = a.graph.size →
      a.Follows (visitA j (a.put c)) (visitC j c))
    (hc : c.length = a.graph.size) :
    a.Follows (preconditionsHold visitA i (a.put c)) (RuleGraph.preconditionsHold visitC n c) := by
  rw [preconditionsHold, node_put_bind hn, RuleGraph.preconditionsHold_eq]
  refine (allHold_follows (fun j hj => h j (.inl hj)) hc).bind fun hlength => ?_
  dsimp only
  split
  · exact ⟨rfl, hlength⟩
  · rw [node_put_bind hn]
    split
    · exact ⟨rfl, hlength⟩
    · exact someHolds_follows (fun j hj => h j (.inr hj)) hlength

end Preconditions

/-- The preconditions of rules are positions of rules. -/
def InRange (a : Arena) : Prop :=
  ∀ i j, a.graph.Needs i j → j < a.graph.size

/-- A visit on a way through the graph, with a cache that has a place for each rule, meets neither
a position out of range nor the bound on its depth. -/
theorem visit_follows (h : a.InRange) (depth : Nat) (path : List Nat) (i : Nat) (c : Cache)
    (hc : c.length = a.graph.size) (hi : i < a.graph.size) (hpath : a.graph.IsPath path i)
    (hdepth : a.graph.size < depth + path.length) :
    a.Follows (visit setting depth path i (a.put c)) (a.graph.visit setting depth path i c) := by
  induction depth generalizing path i c with
  | zero =>
      -- No way is longer than there are rules, and so the bound is not reached.
      have hlength := hpath.length_le
      omega
  | succ depth ih =>
      rw [visit]
      by_cases hmem : i ∈ path
      · rw [if_pos (List.contains_iff_mem.mpr hmem), RuleGraph.visit_of_mem hmem,
          loopVerdict_put hi hpath.lt_size]
        exact ⟨rfl, hc⟩
      rw [if_neg (mt List.contains_iff_mem.mp hmem), known_put_bind (hc ▸ hi)]
      cases hv : c.known? i with
      | some v =>
          rw [RuleGraph.visit_of_known hmem hv]
          exact ⟨rfl, hc⟩
      | none =>
          obtain ⟨n, hn⟩ := RuleGraph.exists_node hi
          rw [RuleGraph.visit_of_node hmem hv hn]
          -- The way goes on to each precondition, which is the position of a rule.
          have hneeds : ∀ j, j ∈ n.allOf ∨ j ∈ n.anyOf → ∀ c, c.length = a.graph.size →
              a.Follows (visit setting depth (i :: path) j (a.put c))
                (a.graph.visit setting depth (i :: path) j c) := by
            intro j hj c hc
            have hij : a.graph.Needs i j := RuleGraph.needs_of_mem hn hj
            refine ih (i :: path) j c hc (h i j hij) (hpath.step hmem hij) ?_
            rw [List.length_cons]
            omega
          refine (preconditionsHold_follows hn hneeds hc).bind fun hlength => ?_
          dsimp only
          rw [node_put_bind hn, enter_put_bind (hlength ▸ hi)]
          exact ⟨rfl, by rw [List.length_set, hlength]⟩

lemma evaluateAt_follows (h : a.InRange) (hi : i < a.graph.size) (hc : c.length = a.graph.size) :
    a.Follows (evaluateAt setting i (a.put c)) (a.graph.evaluateAt setting i c) :=
  visit_follows h _ [] i c hc hi .nil (Nat.lt_succ_self _)

/-- The verdicts at positions, with the names of the rules. -/
lemma evaluateEach_follows {is : List Nat} (h : a.InRange) (his : ∀ i ∈ is, i < a.graph.size)
    (hc : c.length = a.graph.size) :
    a.Follows (evaluateEach setting is (a.put c))
      ((a.graph.evaluateEach setting is c).1.map fun e => (a.graph.nameAt e.1, e.2),
        (a.graph.evaluateEach setting is c).2) := by
  induction is generalizing c with
  | nil => exact ⟨rfl, hc⟩
  | cons i is ih =>
      have hi := his i List.mem_cons_self
      obtain ⟨n, hn⟩ := RuleGraph.exists_node hi
      rw [RuleGraph.evaluateEach_cons, List.map_cons, RuleGraph.nameAt_of_node hn]
      refine (evaluateAt_follows h hi hc).bind fun hlength => ?_
      dsimp only
      rw [node_put_bind hn]
      exact (ih (fun j hj => his j (List.mem_cons_of_mem i hj)) hlength).bind fun hlength' =>
        ⟨rfl, hlength'⟩

/-! ### Requests that succeed -/

lemma reset_put (hc : c.length = a.graph.size) : (a.put c).reset = a.put a.graph.emptyCache := by
  rw [reset, RuleGraph.emptyCache, ← hc, ← List.map_const']
  rfl

/-- One request. -/
theorem answer_follows (h : a.InRange) (hindex : ∀ name, a.index[name]? = a.graph.index? name)
    (request : Request) (hc : c.length = a.graph.size) :
    a.Follows (answer request (a.put c)) (a.graph.answer request c) := by
  cases request with
  | evaluate setting name =>
      rw [answer, RuleGraph.answer, RuleGraph.evaluate?, ← hindex, put]
      cases hidx : a.index[name]? with
      | none => exact ⟨rfl, hc⟩
      | some i =>
          obtain ⟨n, hn, -⟩ := RuleGraph.node_of_index? ((hindex name).symm.trans hidx)
          exact (evaluateAt_follows h (RuleGraph.lt_size_of_node hn) hc).bind fun hlength =>
            ⟨rfl, hlength⟩
  | evaluateAll setting =>
      rw [answer, reset_put hc]
      exact (evaluateEach_follows h (fun i hi => List.mem_range.mp hi)
        RuleGraph.length_emptyCache).bind fun hlength => ⟨rfl, hlength⟩
  | rule name =>
      rw [answer, RuleGraph.answer, RuleGraph.node?_eq_bind, ← hindex, put]
      cases hidx : a.index[name]? with
      | none => exact ⟨rfl, hc⟩
      | some i =>
          obtain ⟨n, hn, -⟩ := RuleGraph.node_of_index? ((hindex name).symm.trans hidx)
          refine ⟨(node_put_bind (c := c) hn).trans ?_, hc⟩
          rw [Option.bind_some, hn]
          rfl
  | reset =>
      rw [answer, reset_put hc]
      exact ⟨rfl, RuleGraph.length_emptyCache⟩

/-- Requests one after the other. -/
theorem serve_put (h : a.InRange) (hindex : ∀ name, a.index[name]? = a.graph.index? name)
    (requests : List Request) (hc : c.length = a.graph.size) :
    serve requests (a.put c) = .ok (a.put (a.graph.serve requests c)) ∧
      (a.graph.serve requests c).length = a.graph.size := by
  induction requests generalizing c with
  | nil => exact ⟨rfl, hc⟩
  | cons request requests ih =>
      obtain ⟨hok, hlength⟩ := answer_follows h hindex request hc
      obtain ⟨hserve, hlength'⟩ := ih hlength
      refine ⟨?_, hlength'⟩
      rw [serve, List.foldlM_cons, hok]
      exact hserve

/-- A graph that is stored is in order, and stays so in use. -/
structure InOrder (a : Arena) (rs : List Rule) : Prop where
  /-- It is the graph of the list. -/
  graph_eq : a.graph = .ofRules rs
  /-- No two rules have one name. -/
  nodup : (a.nodes.map RuleNode.name).Nodup
  /-- The rules are those that come first, in the order of the list. -/
  rules_eq : a.nodes.map (fun n => some n.rule) = (Rule.firsts rs).map (rs[·]?)
  /-- Each stands with its expression. -/
  read : ∀ n ∈ a.nodes, Expression.read n.rule.expression = .ok n.expression
  /-- What is found under a name is the first rule of the name that can be read. -/
  found : ∀ name, ∃ n, answer (.rule name) a = .ok (.rule n, a) ∧
    n.map RuleNode.rule = rs.find? fun r => r.name = name ∧ r.Readable
  /-- The index and the positions are inverse to each other. -/
  indexed : ∀ (name : String) (i : Nat), a.index[name]? = some i ↔
    ∃ n, a.nodes[i]? = some n ∧ n.name = name
  /-- The preconditions that must all be met are those of the rule that are in the graph. -/
  allOf : ∀ n ∈ a.nodes, a.Resolves n.rule.requiredTrue n.allOf
  /-- And so are those of which one must be met. -/
  anyOf : ∀ n ∈ a.nodes, a.Resolves n.rule.orRules n.anyOf
  /-- There is an empty place for the verdict on each rule. -/
  cache_eq : a.cache = List.replicate a.nodes.length none
  /-- No request fails at an access, whatever was requested before, and the answer is that of the
  graph. -/
  served : ∀ requests request,
    let g := RuleGraph.ofRules rs
    let c := g.serve requests g.emptyCache
    serve requests a = .ok (a.put c) ∧
      answer request (a.put c) = .ok ((g.answer request c).1, a.put (g.answer request c).2)

lemma inRange_build (rs : List Rule) : (build rs).InRange := by
  intro i j h
  rw [graph_build] at h ⊢
  exact RuleGraph.lt_size_of_needs h

lemma index_build (rs : List Rule) (name : String) :
    (build rs).index[name]? = (build rs).graph.index? name :=
  indexed_build.index_eq (graph_build ▸ RuleGraph.distinct_ofRules) name

lemma put_emptyCache (rs : List Rule) :
    (build rs).put (RuleGraph.ofRules rs).emptyCache = build rs := by
  have hcache : (RuleGraph.ofRules rs).emptyCache = (build rs).cache := by
    rw [← graph_build, RuleGraph.emptyCache, RuleGraph.size, graph, build, List.length_map]
  rw [put, hcache]

/-- **Nothing is out of range** in a graph that is built: its names are distinct, its index and its
positions are inverse to each other, the preconditions are the positions of the names that are in
the graph, there is an empty place for each verdict, and no request fails at an access. -/
theorem build_inOrder (rs : List Rule) : (build rs).InOrder rs := by
  refine
    { graph_eq := graph_build
      nodup := ?nodup
      rules_eq := ?rules_eq
      read := ?read
      found := ?found
      indexed := indexed_build
      allOf := fun n hn => (resolves_build hn).1
      anyOf := fun n hn => (resolves_build hn).2
      cache_eq := ?cache_eq
      served := ?served }
  case nodup =>
    have distinct : (build rs).graph.Distinct := graph_build ▸ RuleGraph.distinct_ofRules
    exact distinct
  case rules_eq =>
    rw [build, List.map_map]
    exact (Draft.takes_ofRules rs).rules_eq
  case read =>
    intro n hn
    obtain ⟨e, he, rfl⟩ := List.mem_map.mp hn
    exact (Draft.takes_ofRules rs).read e he
  case found =>
    intro name
    have hrule := (answer_follows (inRange_build rs) (index_build rs) (.rule name)
      RuleGraph.length_emptyCache).1
    rw [graph_build, put_emptyCache] at hrule
    exact ⟨_, hrule.trans (by rw [RuleGraph.answer, put_emptyCache]),
      RuleGraph.node?_ofRules rs name⟩
  case cache_eq => rw [build, List.length_map]
  case served =>
    intro requests request
    obtain ⟨hserve, hlength⟩ := serve_put (inRange_build rs) (index_build rs) requests
      RuleGraph.length_emptyCache
    have hanswer := (answer_follows (inRange_build rs) (index_build rs) request hlength).1
    rw [graph_build] at hserve hanswer
    rw [put_emptyCache] at hserve
    exact ⟨hserve, hanswer⟩

/-- Without the positions being in range, a request would fail. -/
example : visit .bare 2 [] 0 ⟨[⟨.gate "a" "" ["b"] [], .aggregate, [1], []⟩], ∅, [none]⟩ =
    .error (.noPlace 1) :=
  rfl

end Arena

end SensorRules
