import SensorRules.Proofs.Names
import SensorRules.Rule.Document

/-!
The levels of a rule and the entries that they are made of.

* `Rule.latest`: what the last entry at a number of seconds says;
* `Rule.level_levelsOf`: the level at a number of seconds has the latest message and the latest
  groups there;
* `Levels.Proper`: no level is without both halves, as in all levels made of entries
  (`Rule.proper_levelsOf`);
* `Levels.entriesOf`, `Levels.mem_entriesOf`: the entries that levels are written as;
* `Rule.levelsOf_of_perm`: proper levels are made of their own entries, in any order.
-/

namespace SensorRules

variable {α : Type} {levels levels' : Levels} {level : Level} {k n : Nat} {a : α} {found : Option α}
  {es : List (Nat × α)}

/-! ### Entries by their seconds -/

namespace Rule

/-- What the last entry at a number of seconds says, if there is one, and else what was found
before. -/
def latest (k : Nat) (es : List (Nat × α)) (found : Option α) : Option α :=
  es.foldl (fun found e => if e.1 = k then some e.2 else found) found

lemma latest_of_notMem (h : k ∉ es.map Prod.fst) : latest k es found = found := by
  rw [latest]
  induction es generalizing found with
  | nil => rfl
  | cons e es ih =>
      rw [List.map_cons, List.mem_cons, not_or] at h
      rw [List.foldl_cons, if_neg (Ne.symm h.1), ih h.2]

lemma latest_of_mem (hnodup : (es.map Prod.fst).Nodup) (h : (k, a) ∈ es) :
    latest k es found = some a := by
  induction es generalizing found with
  | nil => exact absurd h List.not_mem_nil
  | cons e es ih =>
      rw [List.map_cons, List.nodup_cons] at hnodup
      rcases List.mem_cons.mp h with rfl | h
      · rw [latest, List.foldl_cons, if_pos rfl]
        exact latest_of_notMem hnodup.1
      · exact ih hnodup.2 h

lemma mem_of_latest (h : latest k es found = some a) : found = some a ∨ (k, a) ∈ es := by
  induction es generalizing found with
  | nil => exact .inl h
  | cons e es ih =>
      rcases ih h with hfound | hmem
      · beta_reduce at hfound
        by_cases heq : e.1 = k
        · rw [if_pos heq] at hfound
          obtain rfl : e.2 = a := Option.some.inj hfound
          exact .inr (heq ▸ List.mem_cons_self)
        · rw [if_neg heq] at hfound
          exact .inl hfound
      · exact .inr (List.mem_cons_of_mem e hmem)

/-- If no two entries are at one number of seconds, the latest one there is the only one. -/
lemma latest_eq_some_iff (hnodup : (es.map Prod.fst).Nodup) :
    latest k es none = some a ↔ (k, a) ∈ es :=
  ⟨fun h => (mem_of_latest h).resolve_left nofun, latest_of_mem hnodup⟩

end Rule

/-! ### One level -/

namespace Levels

lemma getElem?_insert : (levels.insert n level)[k]? = if n = k then some level else levels[k]? := by
  rw [Std.ExtTreeMap.getElem?_insert]
  simp only [Std.compare_eq_iff_eq]

lemma level_setMessage {message : String} : (levels.setMessage n message).level k =
    if n = k then { levels.level k with message := some message } else levels.level k := by
  rw [setMessage, Levels.level, getElem?_insert]
  split
  next heq => rw [heq]; rfl
  next => rfl

lemma level_setGroups {groups : NameSet} : (levels.setGroups n groups).level k =
    if n = k then { levels.level k with notifyGroups := some groups } else levels.level k := by
  rw [setGroups, Levels.level, getElem?_insert]
  split
  next heq => rw [heq]; rfl
  next => rfl

/-- No level is without both halves. -/
def Proper (levels : Levels) : Prop :=
  ∀ (k : Nat) (level : Level), levels[k]? = some level → level ≠ (⟨none, none⟩ : Level)

lemma Proper.insert (h : levels.Proper) (hlevel : level ≠ (⟨none, none⟩ : Level)) :
    Proper (levels.insert n level) := by
  intro k level' hk
  rw [getElem?_insert] at hk
  split at hk
  next => exact Option.some.inj hk ▸ hlevel
  next => exact h k level' hk

lemma level_of_getElem? (h : levels[k]? = some level) : levels.level k = level := by
  rw [Levels.level, h]
  rfl

/-- Proper levels are known by what stands at each number of seconds. -/
lemma Proper.getElem?_eq (h : levels.Proper) :
    levels[k]? =
      if levels.level k = (⟨none, none⟩ : Level) then none else some (levels.level k) := by
  cases hk : levels[k]? with
  | none =>
      have : levels.level k = ⟨none, none⟩ := by rw [Levels.level, hk]; rfl
      rw [if_pos this]
  | some level =>
      rw [level_of_getElem? hk, if_neg (h k level hk)]

lemma Proper.ext (h : levels.Proper) (h' : levels'.Proper)
    (hlevel : ∀ k, levels.level k = levels'.level k) : levels = levels' := by
  refine Std.ExtTreeMap.ext_getElem? fun k => ?_
  rw [h.getElem?_eq, h'.getElem?_eq, hlevel]

end Levels

/-! ### Levels made of entries -/

namespace Rule

open Levels (level_setMessage level_setGroups)

lemma level_foldl_setMessage {messages : List (Nat × String)} :
    (messages.foldl (fun levels e => levels.setMessage e.1 e.2) levels).level k =
      { levels.level k with message := latest k messages (levels.level k).message } := by
  induction messages generalizing levels with
  | nil => rfl
  | cons e es ih =>
      rw [List.foldl_cons, ih, level_setMessage, latest, latest, List.foldl_cons]
      split <;> rfl

lemma level_foldl_setGroups {groups : List (Nat × NameSet)} :
    (groups.foldl (fun levels e => levels.setGroups e.1 e.2) levels).level k =
      { levels.level k with notifyGroups := latest k groups (levels.level k).notifyGroups } := by
  induction groups generalizing levels with
  | nil => rfl
  | cons e es ih =>
      rw [List.foldl_cons, ih, level_setGroups, latest, latest, List.foldl_cons]
      split <;> rfl

variable {messages : List (Nat × String)} {groups : List (Nat × List String)}

/-- Entries with lists of groups, taken as sets. -/
def asSets (groups : List (Nat × List String)) : List (Nat × NameSet) :=
  groups.map fun e => (e.1, NameSet.ofNames e.2)

lemma levelsOf_eq : levelsOf messages groups =
    (asSets groups).foldl (fun levels e => levels.setGroups e.1 e.2)
      (messages.foldl (fun levels e => levels.setMessage e.1 e.2) ∅) := by
  rw [levelsOf, asSets, List.foldl_map]

/-- The level at a number of seconds has the latest message and the latest groups there. -/
lemma level_levelsOf : (levelsOf messages groups).level k =
    ⟨latest k messages none, latest k (asSets groups) none⟩ := by
  have hempty : Levels.level ∅ k = ⟨none, none⟩ := by
    rw [Levels.level, Std.ExtTreeMap.getElem?_empty]
    rfl
  rw [levelsOf_eq, level_foldl_setGroups, level_foldl_setMessage, hempty]

/-- Levels made of entries are proper. -/
lemma proper_levelsOf : (levelsOf messages groups).Proper := by
  have hmessages (levels : Levels) (h : levels.Proper) :
      Levels.Proper (messages.foldl (fun levels e => levels.setMessage e.1 e.2) levels) :=
    List.foldlRecOn messages _ h fun _ h _ _ => h.insert (by simp)
  have hgroups (levels : Levels) (h : levels.Proper) :
      Levels.Proper ((asSets groups).foldl (fun levels e => levels.setGroups e.1 e.2) levels) :=
    List.foldlRecOn (asSets groups) _ h fun _ h _ _ => h.insert (by simp)
  rw [levelsOf_eq]
  refine hgroups _ (hmessages ∅ ?_)
  intro k level hk
  rw [Std.ExtTreeMap.getElem?_empty] at hk
  exact absurd hk nofun

/-- Levels are only at numbers of seconds that an entry has. -/
lemma mem_of_getElem?_levelsOf (h : (levelsOf messages groups)[k]? = some level) :
    k ∈ messages.map Prod.fst ∨ k ∈ groups.map Prod.fst := by
  have hlevel := proper_levelsOf k level h
  rw [← Levels.level_of_getElem? h, level_levelsOf] at hlevel
  by_contra hmem
  rw [not_or] at hmem
  have hsets : k ∉ (asSets groups).map Prod.fst := by
    rw [asSets, List.map_map]
    exact hmem.2
  rw [latest_of_notMem hmem.1, latest_of_notMem hsets] at hlevel
  exact hlevel rfl

end Rule

/-! ### Levels as entries -/

namespace Levels

variable {half : Level → Option α}

/-- The halves of levels, in the order of their seconds. -/
def entriesOf (half : Level → Option α) (levels : Levels) : List (Nat × α) :=
  levels.toList.filterMap fun e => (half e.2).map (e.1, ·)

lemma messages_eq_entriesOf : levels.messages = levels.entriesOf Level.message :=
  rfl

lemma groups_eq_entriesOf : levels.groups = levels.entriesOf Level.notifyGroups :=
  rfl

lemma mem_entriesOf_iff_exists :
    (k, a) ∈ levels.entriesOf half ↔ ∃ level, levels[k]? = some level ∧ half level = some a := by
  have hmem (k' : Nat) (level : Level) : (k', level) ∈ levels.toList ↔ levels[k']? = some level :=
    Std.ExtTreeMap.mem_toList_iff_getElem?_eq_some
  rw [entriesOf, List.mem_filterMap]
  constructor
  · rintro ⟨⟨k', level⟩, hlevel, h⟩
    obtain ⟨a', ha', heq⟩ := Option.map_eq_some_iff.mp h
    obtain ⟨rfl, rfl⟩ := Prod.mk.inj heq
    exact ⟨level, (hmem k' level).mp hlevel, ha'⟩
  · rintro ⟨level, hlevel, h⟩
    exact ⟨(k, level), (hmem k level).mpr hlevel, Option.map_eq_some_iff.mpr ⟨a, h, rfl⟩⟩

/-- A half that is missing is no entry, be it without a level or in one. -/
lemma mem_entriesOf (hhalf : half ⟨none, none⟩ = none) :
    (k, a) ∈ levels.entriesOf half ↔ half (levels.level k) = some a := by
  rw [mem_entriesOf_iff_exists, Levels.level]
  cases levels[k]? with
  | none => simp [hhalf]
  | some level => simp

/-- No two halves are at one number of seconds. -/
lemma nodup_entriesOf : ((levels.entriesOf half).map Prod.fst).Nodup := by
  have hdistinct := levels.distinct_keys_toList
  rw [List.nodup_iff_pairwise_ne, List.pairwise_map, entriesOf]
  refine hdistinct.filterMap _ fun e e' hne b hb b' hb' => ?_
  obtain ⟨_, _, rfl⟩ := Option.map_eq_some_iff.mp hb
  obtain ⟨_, _, rfl⟩ := Option.map_eq_some_iff.mp hb'
  exact fun heq => hne (Std.compare_eq_iff_eq.mpr heq)

end Levels

namespace Rule

/-- Proper levels are made of their own entries, in any order. -/
lemma levelsOf_of_perm {messages : List (Nat × String)} {groups : List (Nat × List String)}
    (h : levels.Proper) (hmessages : messages.Perm levels.messages)
    (hgroups : (asSets groups).Perm levels.groups) : levelsOf messages groups = levels := by
  refine proper_levelsOf.ext h fun k => ?_
  have latest_eq {β : Type} {half : Level → Option β} {es : List (Nat × β)}
      (hhalf : half ⟨none, none⟩ = none) (hes : es.Perm (levels.entriesOf half)) :
      latest k es none = half (levels.level k) := by
    have hnodup : (es.map Prod.fst).Nodup :=
      (hes.map Prod.fst).nodup_iff.mpr Levels.nodup_entriesOf
    refine Option.ext fun b => ?_
    rw [latest_eq_some_iff hnodup, hes.mem_iff, Levels.mem_entriesOf hhalf]
  rw [Levels.messages_eq_entriesOf] at hmessages
  rw [Levels.groups_eq_entriesOf] at hgroups
  rw [level_levelsOf, latest_eq rfl hmessages, latest_eq rfl hgroups]

end Rule

end SensorRules
