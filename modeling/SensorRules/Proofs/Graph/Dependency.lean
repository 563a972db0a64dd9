import Mathlib.Data.Finset.Card
import Mathlib.Logic.Relation
import Mathlib.Tactic.Lemma
import SensorRules.Graph.Basic

/-!
Which rules of a graph depend on which, and the loops that this makes.

* `RuleNode.HoldsWith`: the preconditions of a rule hold if the rules with a property are those that
  are met;
* `RuleGraph.Needs` and `RuleGraph.NeedsAll`: the rule at one position has the rule at another among
  its preconditions, or among those that must all be met;
* `RuleGraph.OnLoop`: a rule that depends on itself, through other rules or not;
  `RuleGraph.Acyclic`: there is none, and then every chain of preconditions ends
  (`Acyclic.wellFounded`);
* `RuleGraph.IsPath`: the positions on the way to a rule, each of which depends on it. A way is
  never longer than there are rules (`IsPath.length_le`).
-/

namespace SensorRules

open Relation (ReflTransGen TransGen)

/-! ### The preconditions of one rule -/

namespace RuleNode

/-- The preconditions of the rule hold if the rules with the property `met` are met: all of the
first kind, and one of the second kind if there are any. -/
def HoldsWith (n : RuleNode) (met : Nat → Prop) : Prop :=
  (∀ j ∈ n.allOf, met j) ∧ (n.anyOf = [] ∨ ∃ j ∈ n.anyOf, met j)

instance (n : RuleNode) (met : Nat → Prop) [DecidablePred met] : Decidable (n.HoldsWith met) :=
  inferInstanceAs (Decidable (_ ∧ _))

/-- The more rules are met, the more preconditions hold; only those of the rule itself count. -/
lemma HoldsWith.mono {n : RuleNode} {met met' : Nat → Prop} (h : n.HoldsWith met)
    (hle : ∀ j, j ∈ n.allOf ∨ j ∈ n.anyOf → met j → met' j) : n.HoldsWith met' := by
  refine ⟨fun j hj => hle j (.inl hj) (h.1 j hj), ?_⟩
  rcases h.2 with hnil | ⟨j, hj, hmet⟩
  · exact .inl hnil
  · exact .inr ⟨j, hj, hle j (.inr hj) hmet⟩

lemma holdsWith_congr {n : RuleNode} {met met' : Nat → Prop}
    (h : ∀ j, j ∈ n.allOf ∨ j ∈ n.anyOf → (met j ↔ met' j)) : n.HoldsWith met ↔ n.HoldsWith met' :=
  ⟨fun hn => hn.mono fun j hj => (h j hj).mp, fun hn => hn.mono fun j hj => (h j hj).mpr⟩

end RuleNode

/-! ### Dependence and loops -/

namespace RuleGraph

variable {g : RuleGraph} {i j k : Nat} {path : List Nat}

/-- The rule at `i` has the rule at `j` among its preconditions. -/
def Needs (g : RuleGraph) (i j : Nat) : Prop :=
  ∃ n ∈ g.nodes[i]?, j ∈ n.allOf ∨ j ∈ n.anyOf

instance (g : RuleGraph) (i j : Nat) : Decidable (g.Needs i j) :=
  inferInstanceAs (Decidable (∃ n ∈ g.nodes[i]?, _))

/-- The rule at `i` has the rule at `j` among the preconditions that must all be met. -/
def NeedsAll (g : RuleGraph) (i j : Nat) : Prop :=
  ∃ n ∈ g.nodes[i]?, j ∈ n.allOf

instance (g : RuleGraph) (i j : Nat) : Decidable (g.NeedsAll i j) :=
  inferInstanceAs (Decidable (∃ n ∈ g.nodes[i]?, _))

/-- The rule at `i` depends on itself. -/
def OnLoop (g : RuleGraph) (i : Nat) : Prop :=
  TransGen g.Needs i i

/-- No rule depends on itself. -/
def Acyclic (g : RuleGraph) : Prop :=
  ∀ i, ¬ g.OnLoop i

lemma needs_of_mem {n : RuleNode} (hn : g.nodes[i]? = some n) (hj : j ∈ n.allOf ∨ j ∈ n.anyOf) :
    g.Needs i j :=
  ⟨n, hn, hj⟩

lemma lt_size_of_node {n : RuleNode} (hn : g.nodes[i]? = some n) : i < g.size :=
  (List.getElem?_eq_some_iff.mp hn).1

lemma exists_node (hi : i < g.size) : ∃ n, g.nodes[i]? = some n := by
  rw [size] at hi
  exact ⟨g.nodes[i], List.getElem?_eq_getElem hi⟩

lemma Needs.lt_size (h : g.Needs i j) : i < g.size := by
  obtain ⟨n, hn, -⟩ := h
  exact lt_size_of_node hn

/-- If every precondition has a lower rank than its rule, there are no loops. -/
lemma acyclic_of_rank (rank : Nat → Nat) (h : ∀ i j, g.Needs i j → rank j < rank i) :
    g.Acyclic := by
  have lt_of_chain : ∀ i j, TransGen g.Needs i j → rank j < rank i := by
    intro i j hij
    induction hij with
    | single h1 => exact h _ _ h1
    | tail _ h2 ih => exact (h _ _ h2).trans ih
  exact fun i hi => lt_irrefl _ (lt_of_chain i i hi)

/-- Rules that stand after all their preconditions are on no loop. -/
lemma acyclic_of_after (h : ∀ e ∈ g.nodes.zipIdx, ∀ j ∈ e.1.allOf ++ e.1.anyOf, j < e.2) :
    g.Acyclic := by
  refine acyclic_of_rank id fun i j hij => ?_
  obtain ⟨n, hn, hj⟩ := hij
  exact h (n, i) (List.mk_mem_zipIdx_iff_getElem?.mpr hn) j (List.mem_append.mpr hj)

open Classical in
/-- The positions that the rule at `i` depends on, its own included. -/
noncomputable def reached (g : RuleGraph) (i : Nat) : Finset Nat :=
  (Finset.range g.size).filter (ReflTransGen g.Needs i)

lemma mem_reached : k ∈ g.reached i ↔ k < g.size ∧ ReflTransGen g.Needs i k := by
  simp [reached]

/-- Without loops, fewer positions are reached from a precondition than from the rule: the rule
itself is no longer among them. -/
lemma Acyclic.card_reached_lt (h : g.Acyclic) (hij : g.Needs i j) :
    (g.reached j).card < (g.reached i).card := by
  refine Finset.card_lt_card ⟨fun k hk => ?_, fun hsub => ?_⟩
  · obtain ⟨hk, hjk⟩ := mem_reached.mp hk
    exact mem_reached.mpr ⟨hk, .head hij hjk⟩
  · have hi : i ∈ g.reached j := hsub (mem_reached.mpr ⟨hij.lt_size, .refl⟩)
    exact h i (.head' hij (mem_reached.mp hi).2)

/-- Without loops, every chain of preconditions ends. -/
lemma Acyclic.wellFounded (h : g.Acyclic) : WellFounded fun j i => g.Needs i j :=
  Subrelation.wf (fun hij => h.card_reached_lt hij) (measure fun i => (g.reached i).card).wf

/-! ### The way to a rule -/

/-- The positions of `path` lie on the way to position `i`: they are positions of rules, none twice,
and the rule at each of them depends on the one at `i`. -/
structure IsPath (g : RuleGraph) (path : List Nat) (i : Nat) : Prop where
  nodup : path.Nodup
  lt_size : ∀ k ∈ path, k < g.size
  leads : ∀ k ∈ path, TransGen g.Needs k i

lemma IsPath.nil : g.IsPath [] i :=
  ⟨List.nodup_nil, by simp, by simp⟩

/-- The way goes on to a precondition. -/
lemma IsPath.step (h : g.IsPath path i) (hi : i ∉ path) (hij : g.Needs i j) :
    g.IsPath (i :: path) j := by
  refine ⟨List.nodup_cons.mpr ⟨hi, h.nodup⟩, fun k hk => ?_, fun k hk => ?_⟩
  · rcases List.mem_cons.mp hk with rfl | hk
    · exact hij.lt_size
    · exact h.lt_size k hk
  · rcases List.mem_cons.mp hk with rfl | hk
    · exact .single hij
    · exact (h.leads k hk).tail hij

/-- A rule that is reached again on its own way is on a loop. -/
lemma IsPath.onLoop_of_mem (h : g.IsPath path i) (hi : i ∈ path) : g.OnLoop i :=
  h.leads i hi

lemma IsPath.length_le (h : g.IsPath path i) : path.length ≤ g.size := by
  have hsub : path ⊆ List.range g.size := fun k hk => List.mem_range.mpr (h.lt_size k hk)
  simpa using (h.nodup.subperm hsub).length_le

end RuleGraph

end SensorRules
