import Mathlib.Tactic.Lemma

/-!
Lists whose items are all read, one after the other, until one cannot be read.

* `Traversal.exists_of_mem_read`, `Traversal.exists_read_of_mem`: each item is read as one, and
  each was read from one;
* `Traversal.bind_eq_ok_iff`, `Traversal.bind_eq_error_iff`: one reading after another;
* `Traversal.mapM_eq_ok_iff`: all items are read;
* `Traversal.mapM_eq_error_iff`: the first that cannot be read is reported;
* `Traversal.mapM_eq_some_iff`: all items are read, without a report;
* `Traversal.mapM_eq_ok_iff_some`: what is read with a report and without one.
-/

namespace SensorRules

namespace Traversal

variable {α β ε : Type}

/-! ### Lists that are read item by item -/

section Items

variable {γ : Type} {f : α → γ} {g : β → γ} {as : List α} {bs : List β} {a : α} {b : β}

lemma exists_of_mem_read (h : as.map f = bs.map g) (hb : b ∈ bs) : ∃ a ∈ as, f a = g b := by
  have hmem : g b ∈ as.map f := h ▸ List.mem_map_of_mem hb
  exact List.mem_map.mp hmem

lemma exists_read_of_mem (h : as.map f = bs.map g) (ha : a ∈ as) : ∃ b ∈ bs, f a = g b := by
  obtain ⟨b, hb, heq⟩ := exists_of_mem_read h.symm ha
  exact ⟨b, hb, heq.symm⟩

end Items

/-! ### With a report -/

lemma bind_eq_ok_iff {x : Except ε α} {f : α → Except ε β} {b : β} :
    (x >>= f) = .ok b ↔ ∃ a, x = .ok a ∧ f a = .ok b := by
  cases x with
  | error e => exact ⟨nofun, nofun⟩
  | ok a => exact ⟨fun h => ⟨a, rfl, h⟩, fun ⟨_, rfl, h⟩ => h⟩

lemma bind_eq_error_iff {x : Except ε α} {f : α → Except ε β} {e : ε} :
    (x >>= f) = .error e ↔ x = .error e ∨ ∃ a, x = .ok a ∧ f a = .error e := by
  cases x with
  | error e' => exact ⟨fun h => .inl (by cases h; rfl), by rintro (⟨⟨⟩⟩ | ⟨_, ⟨⟩, _⟩); rfl⟩
  | ok a => exact ⟨fun h => .inr ⟨a, rfl, h⟩, by rintro (⟨⟨⟩⟩ | ⟨_, ⟨⟩, h⟩); exact h⟩

variable {f : α → Except ε β} {as : List α} {bs : List β} {e : ε}

/-- A list is read if each of its items is. -/
lemma mapM_eq_ok_iff : as.mapM f = .ok bs ↔ as.map f = bs.map .ok := by
  induction as generalizing bs with
  | nil => cases bs <;> simp [pure, Except.pure]
  | cons a as ih =>
      rw [List.mapM_cons, bind_eq_ok_iff]
      constructor
      · rintro ⟨b, hb, h⟩
        obtain ⟨bs', hbs', h⟩ := bind_eq_ok_iff.mp h
        cases h
        rw [List.map_cons, hb, ih.mp hbs', List.map_cons]
      · intro h
        cases bs with
        | nil => cases h
        | cons b bs =>
            obtain ⟨hb, hbs⟩ := List.cons.inj h
            exact ⟨b, hb, bind_eq_ok_iff.mpr ⟨bs, ih.mpr hbs, rfl⟩⟩

/-- The report is that of the first item that cannot be read. -/
lemma mapM_eq_error_iff : as.mapM f = .error e ↔
    ∃ before a after, as = before ++ a :: after ∧ (∀ b ∈ before, ∃ c, f b = .ok c) ∧
      f a = .error e := by
  induction as with
  | nil => simp [pure, Except.pure]
  | cons a as ih =>
      rw [List.mapM_cons, bind_eq_error_iff]
      constructor
      · rintro (ha | ⟨b, hb, h⟩)
        · exact ⟨[], a, as, rfl, nofun, ha⟩
        · obtain h | ⟨_, _, ⟨⟩⟩ := bind_eq_error_iff.mp h
          obtain ⟨before, a', after, rfl, hbefore, ha'⟩ := ih.mp h
          refine ⟨a :: before, a', after, rfl, fun x hx => ?_, ha'⟩
          rcases List.mem_cons.mp hx with rfl | hx
          · exact ⟨b, hb⟩
          · exact hbefore x hx
      · rintro ⟨before, a', after, heq, hbefore, ha'⟩
        cases before with
        | nil =>
            obtain ⟨rfl, rfl⟩ := List.cons.inj heq
            exact .inl ha'
        | cons b before =>
            obtain ⟨rfl, rfl⟩ := List.cons.inj heq
            obtain ⟨c, hc⟩ := hbefore a List.mem_cons_self
            refine .inr ⟨c, hc, bind_eq_error_iff.mpr (.inl (ih.mpr ?_))⟩
            exact ⟨before, a', after, rfl, fun x hx => hbefore x (List.mem_cons_of_mem a hx), ha'⟩

/-! ### Without a report -/

lemma mapM_eq_some_iff {f : α → Option β} : as.mapM f = some bs ↔ as.map f = bs.map some := by
  induction as generalizing bs with
  | nil => cases bs <;> simp
  | cons a as ih =>
      rw [List.mapM_cons, Option.bind_eq_bind, Option.bind_eq_some_iff]
      constructor
      · rintro ⟨b, hb, h⟩
        obtain ⟨bs', hbs', h⟩ := Option.bind_eq_some_iff.mp h
        cases h
        rw [List.map_cons, hb, ih.mp hbs', List.map_cons]
      · intro h
        cases bs with
        | nil => cases h
        | cons b bs =>
            obtain ⟨hb, hbs⟩ := List.cons.inj h
            exact ⟨b, hb, Option.bind_eq_some_iff.mpr ⟨bs, ih.mpr hbs, rfl⟩⟩

/-- If each item can be read, what is read of the items is what is read of the list. -/
lemma mapM_eq_some_filterMap {f : α → Option β} (h : ∀ a ∈ as, (f a).isSome) :
    as.mapM f = some (as.filterMap f) := by
  rw [mapM_eq_some_iff]
  induction as with
  | nil => rfl
  | cons a as ih =>
      obtain ⟨b, hb⟩ := Option.isSome_iff_exists.mp (h a List.mem_cons_self)
      rw [List.map_cons, ih fun x hx => h x (List.mem_cons_of_mem a hx),
        List.filterMap_cons_some hb, List.map_cons, hb]

/-- Two readings of a list agree if they agree on its items. -/
lemma mapM_eq_ok_iff_some {f : α → Except ε β} {g : α → Option β}
    (h : ∀ a b, f a = .ok b ↔ g a = some b) : as.mapM f = .ok bs ↔ as.mapM g = some bs := by
  rw [mapM_eq_ok_iff, mapM_eq_some_iff]
  induction as generalizing bs with
  | nil => simp
  | cons a as ih => cases bs <;> simp [h, ih]

end Traversal

end SensorRules
