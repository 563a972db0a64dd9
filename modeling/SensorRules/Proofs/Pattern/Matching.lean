import Mathlib.Data.List.Basic
import Mathlib.Order.Iterate
import SensorRules.Pattern.Basic

/-!
The places that a pattern leads to.

* `Times.resize`: walks between two places may be made longer or shorter, down to one step for each
  place on the way, once they have more steps than that; so they need not be counted further than
  there are places (`exists_times_iff`);
* `Leads`: a function on sets of places follows a relation between places;
* `Leads.exactly`, `Leads.within` and `Leads.repeated`: so do walks of its steps, counted out;
* `leads_reach`: a pattern leads just to the ends of the stretches that it matches;
* `occursIn_iff` and `occursIn_between_anchors`: a pattern between the anchors for the two ends of
  a text occurs in it just if it matches the whole of it.
-/

namespace SensorRules.Pattern

variable {text : List Char} {p : Pattern} {i j k m n : Nat} {places least : Nat} {most : Option Nat}
  {marks start : List Bool} {f g : List Bool → List Bool} {r s : Nat → Nat → Prop}

/-! ### Walks -/

lemma times_one : Times r 1 i j ↔ r i j := by
  simp [Times]

lemma times_add : Times r (m + n) i j ↔ ∃ k, Times r m i k ∧ Times r n k j := by
  induction m generalizing i with
  | zero => simp [Times]
  | succ m ih =>
      simp only [Nat.succ_add, Times, ih]
      constructor
      · rintro ⟨a, ha, b, hb, hj⟩
        exact ⟨b, ⟨a, ha, hb⟩, hj⟩
      · rintro ⟨b, ⟨a, ha, hb⟩, hj⟩
        exact ⟨a, ha, b, hb, hj⟩

lemma times_succ : Times r (n + 1) i j ↔ ∃ k, Times r n i k ∧ r k j := by
  simp only [times_add, times_one]

lemma Times.le (hr : ∀ i j, r i j → i ≤ j) (h : Times r n i j) : i ≤ j := by
  induction n generalizing i with
  | zero => exact h.le
  | succ n ih =>
      obtain ⟨k, hk, hj⟩ := h
      exact (hr i k hk).trans (ih hj)

/-- A step that stays where it is can be put in as often as wanted. -/
lemma Times.pad (hi : r i i) (h : Times r n i j) (hnm : n ≤ m) : Times r m i j := by
  induction m, hnm using Nat.le_induction with
  | base => exact h
  | succ m _ ih => exact ⟨i, hi, ih⟩

/-- A walk of more steps than it advances places has a step that stays where it is. Without these
steps it is as long as it advances at most, and with them as long as wanted. -/
lemma Times.resize (hr : ∀ i j, r i j → i ≤ j) (h : Times r n i j) (hn : j - i < n)
    (hm : j - i ≤ m) : Times r m i j := by
  induction n generalizing i m with
  | zero => omega
  | succ n ih =>
      obtain ⟨k, hk, hrest⟩ := h
      have hik : i ≤ k := hr i k hk
      have hkj : k ≤ j := hrest.le hr
      rcases hik.eq_or_lt with rfl | hlt
      · by_cases hshort : n ≤ m
        · exact hrest.pad hk hshort
        · exact ih hrest (by omega) hm
      · obtain ⟨m, rfl⟩ : ∃ m', m = m' + 1 := ⟨m - 1, by omega⟩
        exact ⟨k, hk, ih hrest (by omega) (by omega)⟩

/-- Between two limits, walks need be counted only as far as there are places. -/
lemma exists_times_iff {further : Nat} (hr : ∀ i j, r i j → i ≤ j)
    (hshort : ∀ {n}, Times r n i j → j - i < places)
    (hfurther : further = match most with
      | none => places
      | some m => min places (m - least))
    (hmost : ∀ m ∈ most, least ≤ m) :
    (∃ t ≤ further, Times r (min places least + t) i j) ↔
      ∃ n, least ≤ n ∧ (∀ m ∈ most, n ≤ m) ∧ Times r n i j := by
  constructor
  · rintro ⟨t, ht, hwalk⟩
    by_cases hfew : least ≤ places
    · refine ⟨least + t, Nat.le_add_right .., fun m hm => ?_, ?_⟩
      · obtain rfl : most = some m := hm
        have hle := hmost m rfl
        simp only at hfurther
        omega
      · rwa [min_eq_right hfew] at hwalk
    · have hplaces := hshort hwalk
      exact ⟨least, le_rfl, hmost, hwalk.resize hr (by omega) (by omega)⟩
  · rintro ⟨n, hleast, hn, hwalk⟩
    have hplaces := hshort hwalk
    by_cases hfew : n ≤ min places least + further
    · refine ⟨n - min places least, by omega, ?_⟩
      rwa [Nat.add_sub_cancel' (by omega)]
    · -- More steps than are counted are more than there are places.
      have hlong : j - i < n ∧ j - i ≤ min places least + further := by
        cases most with
        | none =>
            simp only at hfurther
            omega
        | some m =>
            have hle := hmost m rfl
            have hnm := hn m rfl
            simp only at hfurther
            omega
      exact ⟨further, le_rfl, hwalk.resize hr hlong.1 hlong.2⟩

/-! ### Where matches lie -/

lemma matches_le : p.Matches text i j → i ≤ j := by
  induction p generalizing i j with
  | empty => exact fun h => h.le
  | set s =>
      rintro ⟨rfl, -⟩
      exact i.le_succ
  | anchor a => exact fun h => h.1.le
  | append p q ihp ihq =>
      rintro ⟨k, hp, hq⟩
      exact (ihp hp).trans (ihq hq)
  | either p q ihp ihq => exact fun h => h.elim ihp ihq
  | repeated p least most ih =>
      rintro ⟨n, -, -, h⟩
      exact h.le fun _ _ => ih

lemma Times.le_of_le {bound : Nat} (hr : ∀ i j, r i j → i ≤ bound → j ≤ bound)
    (h : Times r n i j) (hi : i ≤ bound) : j ≤ bound := by
  induction n generalizing i with
  | zero => exact h ▸ hi
  | succ n ih =>
      obtain ⟨k, hk, hj⟩ := h
      exact ih hj (hr i k hk hi)

lemma matches_le_length : p.Matches text i j → i ≤ text.length → j ≤ text.length := by
  induction p generalizing i j with
  | empty =>
      rintro rfl hi
      exact hi
  | set s =>
      rintro ⟨rfl, c, hc, -⟩ -
      exact (List.getElem?_eq_some_iff.mp hc).1
  | anchor a =>
      rintro ⟨rfl, hi, -⟩ -
      exact hi
  | append p q ihp ihq =>
      rintro ⟨k, hp, hq⟩ hi
      exact ihq hq (ihp hp hi)
  | either p q ihp ihq => exact fun h hi => h.elim (ihp · hi) (ihq · hi)
  | repeated p least most ih =>
      rintro ⟨n, -, -, h⟩ hi
      exact h.le_of_le (fun _ _ => ih) hi

/-! ### Functions on sets of places -/

/-- The place is in the set. -/
def Marked (marks : List Bool) (i : Nat) : Prop :=
  marks[i]? = some true

lemma Marked.lt_length (h : Marked marks i) : i < marks.length :=
  (List.getElem?_eq_some_iff.mp h).1

lemma any_iff : marks.any id = true ↔ ∃ i, Marked marks i := by
  simp [Marked, List.mem_iff_getElem?]

lemma marked_join {marks' : List Bool} (hlength : marks.length = marks'.length) :
    Marked (join marks marks') i ↔ Marked marks i ∨ Marked marks' i := by
  unfold Marked join
  rw [List.getElem?_zipWith]
  by_cases hi : i < marks.length
  · rw [List.getElem?_eq_getElem hi, List.getElem?_eq_getElem (hlength ▸ hi)]
    simp
  · rw [List.getElem?_eq_none (by omega)]
    simp only [reduceCtorEq, false_or, false_iff]
    rw [List.getElem?_eq_none (by omega)]
    simp

lemma length_join {marks' : List Bool} (hlength : marks.length = marks'.length) :
    (join marks marks').length = marks.length := by
  rw [join, List.length_zipWith, hlength, min_self]

/-- On sets of so many places, the function leads to the places that stand in the relation to one of
the set. -/
structure Leads (places : Nat) (f : List Bool → List Bool) (r : Nat → Nat → Prop) : Prop where
  length_eq : ∀ marks, marks.length = places → (f marks).length = places
  marked_iff : ∀ marks, marks.length = places →
    ∀ j, Marked (f marks) j ↔ ∃ i, Marked marks i ∧ r i j

lemma leads_id : Leads places id (· = ·) where
  length_eq _ h := h
  marked_iff marks _ j := by simp

lemma Leads.comp (hg : Leads places g s) (hf : Leads places f r) :
    Leads places (fun marks => g (f marks)) fun i j => ∃ k, r i k ∧ s k j where
  length_eq marks h := hg.length_eq _ (hf.length_eq _ h)
  marked_iff marks h j := by
    rw [hg.marked_iff _ (hf.length_eq _ h)]
    simp only [hf.marked_iff _ h]
    constructor
    · rintro ⟨k, ⟨i, hi, hk⟩, hj⟩
      exact ⟨i, hi, k, hk, hj⟩
    · rintro ⟨i, hi, k, hk, hj⟩
      exact ⟨k, ⟨i, hi, hk⟩, hj⟩

lemma Leads.join (hf : Leads places f r) (hg : Leads places g s) :
    Leads places (fun marks => join (f marks) (g marks)) fun i j => r i j ∨ s i j where
  length_eq marks h := by
    rw [length_join ((hf.length_eq _ h).trans (hg.length_eq _ h).symm), hf.length_eq _ h]
  marked_iff marks h j := by
    rw [marked_join ((hf.length_eq _ h).trans (hg.length_eq _ h).symm), hf.marked_iff _ h,
      hg.marked_iff _ h]
    simp only [and_or_left, exists_or]

lemma Leads.congr (hf : Leads places f r)
    (h : ∀ i j, i < places → (r i j ↔ s i j)) : Leads places f s where
  length_eq := hf.length_eq
  marked_iff marks hlength j := by
    rw [hf.marked_iff _ hlength]
    refine exists_congr fun i => and_congr_right fun hi => h i j ?_
    exact hlength ▸ hi.lt_length

lemma leads_none (places : Nat) :
    Leads places (fun marks => marks.map fun _ => false) fun _ _ => False where
  length_eq marks h := by rw [List.length_map, h]
  marked_iff marks _ j := by
    rw [Marked, List.getElem?_map]
    cases marks[j]? <;> simp

lemma Leads.exactly (hf : Leads places f r) (n : Nat) : Leads places (exactly f n) (Times r n) := by
  induction n with
  | zero => exact leads_id
  | succ n ih =>
      have hstep := ih.comp hf
      constructor
      · intro marks h
        rw [Pattern.exactly]
        split
        · exact hstep.length_eq _ h
        · exact h
      · intro marks h j
        rw [Pattern.exactly]
        split
        next => exact hstep.marked_iff _ h j
        next hnone =>
          -- From no place at all no step leads anywhere.
          have hunmarked : ∀ i, ¬ Marked marks i := fun i hi => hnone (any_iff.mpr ⟨i, hi⟩)
          simp [hunmarked]

lemma within_eq_iterate : within f start n marks = (fun ms => join start (f ms))^[n] marks := by
  induction n generalizing marks with
  | zero => rfl
  | succ n ih =>
      rw [within]
      split
      next hfixed => exact (Function.iterate_fixed hfixed (n + 1)).symm
      next => rw [ih, Function.iterate_succ_apply]

lemma Leads.within (hf : Leads places f r) (n : Nat) :
    Leads places (fun marks => within f marks n marks) fun i j => ∃ k ≤ n, Times r k i j := by
  induction n with
  | zero => exact leads_id.congr fun i j _ => by simp [Times]
  | succ n ih =>
      have hnext (marks : List Bool) : Pattern.within f marks (n + 1) marks =
          Pattern.join (id marks) (f (Pattern.within f marks n marks)) := by
        rw [within_eq_iterate, Function.iterate_succ_apply', ← within_eq_iterate, id]
      simp only [hnext]
      refine (leads_id.join (hf.comp ih)).congr fun i j _ => ?_
      constructor
      · rintro (rfl | ⟨a, ⟨k, hk, ha⟩, hj⟩)
        · exact ⟨0, Nat.zero_le _, rfl⟩
        · exact ⟨k + 1, Nat.succ_le_succ hk, times_succ.mpr ⟨a, ha, hj⟩⟩
      · rintro ⟨k, hk, hj⟩
        cases k with
        | zero => exact .inl hj
        | succ k =>
            obtain ⟨a, ha, hj⟩ := times_succ.mp hj
            exact .inr ⟨a, ⟨k, Nat.le_of_succ_le_succ hk, ha⟩, hj⟩

/-! ### Patterns -/

lemma leads_advance (text : List Char) (s : CharSet) :
    Leads (text.length + 1) (advance text s) ((set s).Matches text) where
  length_eq marks h := by simp [advance, h]
  marked_iff marks h j := by
    cases j with
    | zero => simp [Marked, advance, Matches]
    | succ j =>
        simp only [Marked, advance, Matches, List.getElem?_cons_succ, List.getElem?_zipWith]
        constructor
        · intro hj
          cases hm : marks[j]? <;> cases hc : text[j]? <;> simp_all
        · rintro ⟨i, hi, heq, c, hc, hs⟩
          obtain rfl : j = i := Nat.succ.inj heq
          simp [hi, hc, hs]

lemma length_surroundings (previous : Option Char) :
    (surroundings previous text).length = text.length + 1 := by
  induction text generalizing previous with
  | nil => rfl
  | cons c cs ih => rw [surroundings, List.length_cons, ih, List.length_cons]

lemma getElem?_surroundings (previous : Option Char) (hi : i ≤ text.length) :
    (surroundings previous text)[i]? =
      some (if i = 0 then previous else before text i, text[i]?) := by
  induction text generalizing previous i with
  | nil =>
      obtain rfl : i = 0 := Nat.le_zero.mp hi
      rfl
  | cons c cs ih =>
      cases i with
      | zero => rfl
      | succ i =>
          rw [surroundings, List.getElem?_cons_succ, ih (some c) (Nat.le_of_succ_le_succ hi)]
          cases i <;> rfl

lemma leads_restrict (text : List Char) (a : Anchor) :
    Leads (text.length + 1) (restrict text a) ((anchor a).Matches text) where
  length_eq marks h := by simp [restrict, length_surroundings, h]
  marked_iff marks h j := by
    have hsides (hj : j ≤ text.length) :
        (surroundings none text)[j]? = some (before text j, text[j]?) := by
      rw [getElem?_surroundings none hj]
      cases j <;> rfl
    simp only [Marked, restrict, Matches, List.getElem?_zipWith]
    by_cases hj : j ≤ text.length
    · rw [hsides hj]
      constructor
      · intro hmarked
        cases hm : marks[j]? with
        | none => simp [hm] at hmarked
        | some m => simp_all
      · rintro ⟨i, hi, rfl, -, ha⟩
        simp [hi, ha]
    · rw [List.getElem?_eq_none (by omega)]
      simp only [reduceCtorEq, false_iff]
      rintro ⟨i, -, rfl, hi, -⟩
      exact hj hi

/-- A repetition is counted out as far as there are places, both up to its lower limit and from
there to the upper one: a walk of more steps can be made as short or as long as wanted. -/
lemma Leads.repeated (hf : Leads (text.length + 1) f (p.Matches text)) (least : Nat)
    (most : Option Nat) {further : Nat}
    (hfurther : further = match most with
      | none => text.length + 1
      | some m => min (text.length + 1) (m - least))
    (hmost : ∀ m ∈ most, least ≤ m) :
    Leads (text.length + 1)
      (fun marks =>
        let start := Pattern.exactly f (min (text.length + 1) least) marks
        Pattern.within f start further start)
      ((p.repeated least most).Matches text) := by
  refine ((hf.within further).comp (hf.exactly (min (text.length + 1) least))).congr ?_
  intro i j hi
  have hshort {n : Nat} (h : Times (p.Matches text) n i j) : j - i < text.length + 1 := by
    have hj := h.le_of_le (fun _ _ => matches_le_length) (Nat.le_of_lt_succ hi)
    omega
  rw [Matches, ← exists_times_iff (fun _ _ => matches_le) hshort hfurther hmost]
  simp only [times_add]
  constructor
  · rintro ⟨k, hk, t, ht, hj⟩
    exact ⟨t, ht, k, hk, hj⟩
  · rintro ⟨t, ht, k, hk, hj⟩
    exact ⟨k, hk, t, ht, hj⟩

lemma leads_reach (text : List Char) (p : Pattern) :
    Leads (text.length + 1) (p.reach text) (p.Matches text) := by
  induction p with
  | empty => exact leads_id
  | set s => exact leads_advance text s
  | anchor a => exact leads_restrict text a
  | append p q ihp ihq => exact ihq.comp ihp
  | either p q ihp ihq => exact ihp.join ihq
  | repeated p least most ih =>
      have hiff : most.all (least ≤ ·) = true ↔ ∀ m ∈ most, least ≤ m := by cases most <;> simp
      simp only [reach, hiff]
      by_cases hmost : ∀ m ∈ most, least ≤ m
      · simp only [if_pos hmost]
        exact ih.repeated least most rfl hmost
      · simp only [if_neg hmost]
        refine (leads_none _).congr fun i j _ => ?_
        rw [false_iff]
        rintro ⟨n, hleast, hn, -⟩
        exact hmost fun m hm => hleast.trans (hn m hm)

lemma occursIn_iff : p.occursIn text = true ↔ ∃ i j, i ≤ text.length ∧ p.Matches text i j := by
  have hall : ∀ i, Marked (List.replicate (text.length + 1) true) i ↔ i ≤ text.length := by
    intro i
    rw [Marked, List.getElem?_replicate, Option.ite_none_right_eq_some]
    exact ⟨fun h => Nat.le_of_lt_succ h.1, fun h => ⟨Nat.lt_succ_of_le h, rfl⟩⟩
  rw [occursIn, any_iff]
  simp only [(leads_reach text p).marked_iff _ List.length_replicate, hall]
  exact exists_comm

lemma matches_textStart : (anchor .textStart).Matches text i j ↔ i = j ∧ j = 0 := by
  constructor
  · rintro ⟨rfl, hi, ha⟩
    refine ⟨rfl, ?_⟩
    cases i with
    | zero => rfl
    | succ i =>
        have hnone : text[i]? = none := Option.isNone_iff_eq_none.mp ha
        rw [List.getElem?_eq_none_iff] at hnone
        omega
  · rintro ⟨rfl, rfl⟩
    exact ⟨rfl, Nat.zero_le _, rfl⟩

lemma matches_textEnd : (anchor .textEnd).Matches text i j ↔ i = j ∧ j = text.length := by
  constructor
  · rintro ⟨rfl, hi, ha⟩
    have hnone : text[i]? = none := Option.isNone_iff_eq_none.mp ha
    rw [List.getElem?_eq_none_iff] at hnone
    exact ⟨rfl, by omega⟩
  · rintro ⟨rfl, rfl⟩
    exact ⟨rfl, le_rfl, Option.isNone_iff_eq_none.mpr (List.getElem?_eq_none le_rfl)⟩

lemma occursIn_between_anchors :
    (append (anchor .textStart) (append p (anchor .textEnd))).occursIn text = true ↔
      p.Matches text 0 text.length := by
  rw [occursIn_iff]
  constructor
  · rintro ⟨i, j, -, a, ha, b, hp, hb⟩
    obtain ⟨rfl, rfl⟩ := matches_textStart.mp ha
    obtain ⟨rfl, rfl⟩ := matches_textEnd.mp hb
    exact hp
  · intro hp
    exact ⟨0, text.length, Nat.zero_le _, 0, matches_textStart.mpr ⟨rfl, rfl⟩, text.length, hp,
      matches_textEnd.mpr ⟨rfl, rfl⟩⟩

end SensorRules.Pattern
