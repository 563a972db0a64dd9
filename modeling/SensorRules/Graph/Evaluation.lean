import SensorRules.Graph.Basic
import SensorRules.Verdict

/-!
Evaluation of the rules in a graph. A rule is judged by its expression if its preconditions hold,
and is violated otherwise; each rule is judged once, and its verdict kept in a cache.

A rule that is reached again while its own preconditions are looked at is not met there, and this
verdict is not kept: a way to the rule that does not lead through itself may still find it met.

* `Cache`: the verdicts known so far, by position;
* `RuleGraph.allHold` and `RuleGraph.someHolds`: the two kinds of preconditions;
* `RuleGraph.visit`: the verdict at a position, reached along a path of positions;
* `RuleGraph.evaluate?` and `RuleGraph.evaluateAll`: one rule by name, and all of them.
-/

namespace SensorRules

/-- The verdicts known so far: one place for each rule, empty at first. -/
abbrev Cache := List (Option Verdict)

/-- The verdict known at a position. -/
def Cache.known? (cache : Cache) (i : Nat) : Option Verdict :=
  cache[i]?.join

namespace RuleGraph

/-- The cache in which nothing is known. -/
def emptyCache (g : RuleGraph) : Cache :=
  List.replicate g.size none

/-- All of the rules are met; looks no further than the first that is not. -/
def allHold (visit : Nat → Cache → Verdict × Cache) : List Nat → Cache → Bool × Cache
  | [], cache => (true, cache)
  | i :: is, cache =>
    let (v, cache) := visit i cache
    if v.ok then allHold visit is cache else (false, cache)

/-- Some of the rules is met; looks no further than the first that is. -/
def someHolds (visit : Nat → Cache → Verdict × Cache) : List Nat → Cache → Bool × Cache
  | [], cache => (false, cache)
  | i :: is, cache =>
    let (v, cache) := visit i cache
    if v.ok then (true, cache) else someHolds visit is cache

/-- The preconditions of a rule hold: all of the first kind, and then some of the second kind if
there are any. -/
def preconditionsHold (visit : Nat → Cache → Verdict × Cache) (n : RuleNode) (cache : Cache) :
    Bool × Cache :=
  let (all, cache) := allHold visit n.allOf cache
  if !all then (false, cache)
  else if n.anyOf.isEmpty then (true, cache)
  else someHolds visit n.anyOf cache

/-- The sensors of the rule at a position. -/
def sensorsAt (g : RuleGraph) (i : Nat) : NameSet :=
  (g.nodes[i]?.map (·.rule.sensorNames)).getD ∅

/-- The verdict on a rule that is reached again on its own path: all sensors of the path are at
fault. -/
def loopVerdict (g : RuleGraph) (path : List Nat) (i : Nat) : Verdict :=
  .violated (path.foldl (fun names j => names.union (g.sensorsAt j)) (g.sensorsAt i))

/-- The verdict on a rule whose preconditions have been looked at. -/
def nodeVerdict (setting : Setting) (n : RuleNode) (holds : Bool) : Verdict :=
  if holds then n.expression.judge setting n.rule.sensorNames else .violated n.rule.sensorNames

/-- The verdict at a position that is reached along a path, with what is known afterwards. No path
is longer than there are rules, so `depth` need not be more than one above their number. -/
def visit (g : RuleGraph) (setting : Setting) :
    (depth : Nat) → (path : List Nat) → Nat → Cache → Verdict × Cache
  | 0, path, i, cache => (g.loopVerdict path i, cache)
  | depth + 1, path, i, cache =>
    if path.contains i then (g.loopVerdict path i, cache)
    else
      match cache.known? i, g.nodes[i]? with
      | some v, _ => (v, cache)
      | none, none => (.violated ∅, cache)
      | none, some n =>
        let (holds, cache) := preconditionsHold (g.visit setting depth (i :: path)) n cache
        let v := nodeVerdict setting n holds
        (v, cache.set i (some v))

/-- The verdict at a position, reached directly. -/
def evaluateAt (g : RuleGraph) (setting : Setting) (i : Nat) (cache : Cache) : Verdict × Cache :=
  g.visit setting (g.size + 1) [] i cache

/-- The verdict on the rule with a name, if there is one. -/
def evaluate? (g : RuleGraph) (setting : Setting) (name : String) (cache : Cache) :
    Option (Verdict × Cache) :=
  (g.index? name).map fun i => g.evaluateAt setting i cache

/-- The verdicts at positions, one after the other. -/
def evaluateEach (g : RuleGraph) (setting : Setting) :
    List Nat → Cache → List (Nat × Verdict) × Cache
  | [], cache => ([], cache)
  | i :: is, cache =>
    let (v, cache) := g.evaluateAt setting i cache
    let (vs, cache) := evaluateEach g setting is cache
    ((i, v) :: vs, cache)

/-- The name of the rule at a position. -/
def nameAt (g : RuleGraph) (i : Nat) : String :=
  (g.nodes[i]?.map RuleNode.name).getD ""

/-- The verdicts on all rules, from an empty cache, with the cache afterwards. -/
def evaluateAll (g : RuleGraph) (setting : Setting) : NameTable Verdict × Cache :=
  let (vs, cache) := g.evaluateEach setting (List.range g.size) g.emptyCache
  (Std.ExtTreeMap.ofList (vs.map fun e => (g.nameAt e.1, e.2)), cache)

end RuleGraph

end SensorRules
