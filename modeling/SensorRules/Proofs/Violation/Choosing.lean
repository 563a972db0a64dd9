import Mathlib.Order.Bounds.Basic
import SensorRules.Proofs.Violation.Escalating

/-!
Which level each half of an escalation is taken from, and when there is nothing to say.

* `Boundary.Picks`: which of several numbers of seconds counts, with `Picks.unique`;
* `Levels.having`: the seconds of the levels that have a half;
* `Levels.keyOf_eq_some_iff`: the level from which a half is taken is the one that is picked among
  those that have this half;
* `Escalation.of_picks`: what an escalation says, and when it says nothing or notifies nobody;
* `Escalation.quiet_level`: nobody may be notified though there are levels with groups.
-/

namespace SensorRules

variable {α : Type} {e k k' : Nat} {keys : Set Nat} {b : Boundary} {levels : Levels}
  {half : Level → Option α} {a : α}

/-! ### The number that counts -/

namespace Boundary

/-- What makes one of several numbers of seconds count after `e` seconds. -/
inductive Picks (e : Nat) (keys : Set Nat) (k : Nat) : Boundary → Prop
  /-- It is the greatest one below. -/
  | passed : IsGreatest {k ∈ keys | k < e} k → Picks e keys k previousHook
  /-- There is none below, and it is the least. -/
  | first : (∀ k ∈ keys, ¬ k < e) → IsLeast keys k → Picks e keys k previousHook
  /-- It is the least one that is not below. -/
  | reached : IsLeast {k ∈ keys | e ≤ k} k → Picks e keys k matchedKey
  /-- All are below, and it is the greatest. -/
  | last : (∀ k ∈ keys, ¬ e ≤ k) → IsGreatest keys k → Picks e keys k matchedKey

lemma Picks.mem (h : Picks e keys k b) : k ∈ keys := by
  cases h with
  | passed h => exact h.1.1
  | first _ h => exact h.1
  | reached h => exact h.1.1
  | last _ h => exact h.1

/-- Only one number counts. -/
lemma Picks.unique (h : Picks e keys k b) (h' : Picks e keys k' b) : k = k' := by
  cases h with
  | passed h =>
      cases h' with
      | passed h' => exact h.unique h'
      | first hnone _ => exact absurd h.1.2 (hnone k h.1.1)
  | first hnone h =>
      cases h' with
      | passed h' => exact absurd h'.1.2 (hnone k' h'.1.1)
      | first _ h' => exact h.unique h'
  | reached h =>
      cases h' with
      | reached h' => exact h.unique h'
      | last hnone _ => exact absurd h.1.2 (hnone k h.1.1)
  | last hnone h =>
      cases h' with
      | reached h' => exact absurd h'.1.2 (hnone k' h'.1.1)
      | last _ h' => exact h.unique h'

end Boundary

/-! ### The levels with a half -/

namespace Levels

open Boundary (Chosen Picks)

/-- The seconds of the levels that have a half. -/
def having (half : Level → Option α) (levels : Levels) : Set Nat :=
  {k | (levels[k]?.bind half).isSome}

lemma mem_having_iff : k ∈ levels.having half ↔ ∃ a, (k, a) ∈ levels.entriesOf half := by
  simp only [having, Set.mem_ofPred_eq, Option.isSome_iff_exists, Option.bind_eq_some_iff,
    mem_entriesOf_iff_exists]

/-- The entry that counts is at the number that is picked. -/
lemma picks_of_chosen (h : Chosen e (levels.entriesOf half) (k, a) b) :
    Picks e (levels.having half) k b := by
  have hk : k ∈ levels.having half := mem_having_iff.mpr ⟨a, h.mem⟩
  cases h with
  | passed _ hlt hlast =>
      refine .passed ⟨⟨hk, hlt⟩, fun k' hk' => ?_⟩
      obtain ⟨a', ha'⟩ := mem_having_iff.mp hk'.1
      exact hlast (k', a') ha' hk'.2
  | first _ hahead hfirst =>
      refine .first (fun k' hk' => ?_) ⟨hk, fun k' hk' => ?_⟩
      · obtain ⟨a', ha'⟩ := mem_having_iff.mp hk'
        exact Nat.not_lt.mpr (hahead (k', a') ha')
      · obtain ⟨a', ha'⟩ := mem_having_iff.mp hk'
        exact hfirst (k', a') ha'
  | reached _ hle hnext =>
      refine .reached ⟨⟨hk, hle⟩, fun k' hk' => ?_⟩
      obtain ⟨a', ha'⟩ := mem_having_iff.mp hk'.1
      exact hnext (k', a') ha' hk'.2
  | last _ hpassed hlast =>
      refine .last (fun k' hk' => ?_) ⟨hk, fun k' hk' => ?_⟩
      · obtain ⟨a', ha'⟩ := mem_having_iff.mp hk'
        exact Nat.not_le.mpr (hpassed (k', a') ha')
      · obtain ⟨a', ha'⟩ := mem_having_iff.mp hk'
        exact hlast (k', a') ha'

lemma keyOf_eq_none_iff_having : levels.keyOf half b e = none ↔ levels.having half = ∅ := by
  rw [keyOf_eq_none_iff, List.eq_nil_iff_forall_not_mem, Set.eq_empty_iff_forall_notMem]
  constructor
  · intro h k hk
    obtain ⟨a, ha⟩ := mem_having_iff.mp hk
    exact h (k, a) ha
  · exact fun h x hx => h x.1 (mem_having_iff.mpr ⟨x.2, hx⟩)

/-- The level from which a half is taken is picked among those that have this half. -/
lemma keyOf_eq_some_iff : levels.keyOf half b e = some k ↔ Picks e (levels.having half) k b := by
  have hpicks (k : Nat) (h : levels.keyOf half b e = some k) :
      Picks e (levels.having half) k b := by
    obtain ⟨a, ha⟩ := exists_chosen_of_keyOf h
    exact picks_of_chosen ha
  refine ⟨hpicks k, fun h => ?_⟩
  cases hk : levels.keyOf half b e with
  | none =>
      rw [keyOf_eq_none_iff_having] at hk
      exact absurd h.mem (hk ▸ Set.notMem_empty k)
  | some k' => rw [(hpicks k' hk).unique h]

/-- If some level has a half, there is one from which it is taken. -/
lemma existsUnique_picks (h : (levels.having half).Nonempty) :
    ∃! k, Picks e (levels.having half) k b := by
  have hsome : levels.keyOf half b e ≠ none :=
    fun hnone => h.ne_empty (keyOf_eq_none_iff_having.mp hnone)
  obtain ⟨k, hk⟩ := Option.ne_none_iff_exists'.mp hsome
  exact ⟨k, keyOf_eq_some_iff.mp hk, fun k' hk' => hk'.unique (keyOf_eq_some_iff.mp hk)⟩

lemma isSome_of_mem_having (hhalf : half ⟨none, none⟩ = none) (h : k ∈ levels.having half) :
    (half (levels.level k)).isSome := by
  obtain ⟨a, ha⟩ := mem_having_iff.mp h
  exact Option.isSome_of_eq_some ((mem_entriesOf hhalf).mp ha)

end Levels

/-! ### The escalation -/

namespace Escalation

open Boundary (Picks)
open Levels (keyOf keyOf_eq_some_iff keyOf_eq_none_iff_having)

lemma message_of : (Escalation.of levels e b).message =
    (levels.keyOf Level.message b e).bind fun k => (levels.level k).message := by
  rw [← Levels.escalationAt_keyOf]
  rfl

lemma notifyGroups_of : (Escalation.of levels e b).notifyGroups =
    ((levels.keyOf Level.notifyGroups b e).bind fun k => (levels.level k).notifyGroups).getD ∅ := by
  rw [← Levels.escalationAt_keyOf]
  rfl

/-- The message is that of the level picked among those with a message. -/
lemma message_of_picks (h : Picks e (levels.having Level.message) k b) :
    (Escalation.of levels e b).message = (levels.level k).message := by
  rw [message_of, keyOf_eq_some_iff.mpr h, Option.bind_some]

/-- The groups are those of the level picked among those with groups. -/
lemma notifyGroups_of_picks (h : Picks e (levels.having Level.notifyGroups) k b) :
    some (Escalation.of levels e b).notifyGroups = (levels.level k).notifyGroups := by
  obtain ⟨groups, hgroups⟩ :=
    Option.isSome_iff_exists.mp (Levels.isSome_of_mem_having rfl h.mem)
  rw [notifyGroups_of, keyOf_eq_some_iff.mpr h, Option.bind_some, hgroups, Option.getD_some]

/-- **What an escalation says.** If some level has a half, just one is picked among those that have
it, by the boundary: the greatest below the time that has passed, or else the least, and the least
that is not below, or else the greatest. The message is that of the level picked for messages, and
the groups are those of the level picked for groups. There is no message just if no level has one.
Nobody is notified just if no level has groups or the level that is picked has none in them. -/
theorem of_picks (levels : Levels) (elapsed : Nat) (b : Boundary) :
    let escalation := Escalation.of levels elapsed b
    (∀ {α : Type} (half : Level → Option α), (levels.having half).Nonempty →
      ∃! k, Picks elapsed (levels.having half) k b) ∧
    (∀ k, Picks elapsed (levels.having Level.message) k b →
      escalation.message = (levels.level k).message) ∧
    (∀ k, Picks elapsed (levels.having Level.notifyGroups) k b →
      some escalation.notifyGroups = (levels.level k).notifyGroups) ∧
    (escalation.message = none ↔ levels.having Level.message = ∅) ∧
    (escalation.notifyGroups = ∅ ↔ levels.having Level.notifyGroups = ∅ ∨
      ∃ k, Picks elapsed (levels.having Level.notifyGroups) k b ∧
        (levels.level k).notifyGroups = some ∅) := by
  intro escalation
  refine ⟨fun half => Levels.existsUnique_picks, fun k => message_of_picks,
    fun k => notifyGroups_of_picks, ?_, ?_⟩
  · rcases (levels.having Level.message).eq_empty_or_nonempty with hempty | hsome
    · have hnone : escalation.message = none := by
        rw [message_of, keyOf_eq_none_iff_having.mpr hempty, Option.bind_none]
      exact iff_of_true hnone hempty
    · obtain ⟨k, hk, -⟩ := Levels.existsUnique_picks (e := elapsed) (b := b) hsome
      refine iff_of_false (fun hnone => ?_) hsome.ne_empty
      have := Levels.isSome_of_mem_having rfl hk.mem
      rw [← message_of_picks hk, hnone] at this
      cases this
  · rcases (levels.having Level.notifyGroups).eq_empty_or_nonempty with hempty | hsome
    · have hnobody : escalation.notifyGroups = ∅ := by
        rw [notifyGroups_of, keyOf_eq_none_iff_having.mpr hempty, Option.bind_none,
          Option.getD_none]
      exact iff_of_true hnobody (.inl hempty)
    · obtain ⟨k, hk, hunique⟩ := Levels.existsUnique_picks (e := elapsed) (b := b) hsome
      rw [or_iff_right hsome.ne_empty]
      constructor
      · intro hnobody
        exact ⟨k, hk, by rw [← notifyGroups_of_picks hk, hnobody]⟩
      · rintro ⟨k', hk', hgroups⟩
        exact Option.some.inj ((notifyGroups_of_picks hk').trans hgroups)

/-- Nobody is notified after a minute, and the family after ten. -/
def quietLevels : Levels :=
  (Levels.setGroups ∅ 60 ∅).setGroups 600 (NameSet.ofNames ["family"])

/-- **A quiet level**: nobody is notified though two levels have groups, since the first one has an
empty set of them. -/
theorem quiet_level : ¬ ((Escalation.of quietLevels 100 .previousHook).notifyGroups = ∅ ↔
    quietLevels.having Level.notifyGroups = ∅) := by
  have hnobody : (Escalation.of quietLevels 100 .previousHook).notifyGroups = ∅ := by
    decide +kernel
  have hlevel : 60 ∈ quietLevels.having Level.notifyGroups := by
    have hsome : (quietLevels[60]?.bind Level.notifyGroups).isSome = true := by decide +kernel
    exact hsome
  intro h
  exact absurd hlevel (h.mp hnobody ▸ Set.notMem_empty 60)

end Escalation

end SensorRules
