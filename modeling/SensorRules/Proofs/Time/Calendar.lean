import Mathlib.Tactic.Lemma
import SensorRules.Time.Calendar

/-!
The dates of days and the days of dates.

* `yearOfDay_spec`: a day lies in its year, and in no other (`yearOfDay_bounds`);
* `Date.splitMonths_spec`: a day of the year lies in its month;
* `Date.isValid_ofDay`, `Date.toDay_ofDay`: every day has a date, and it is the day of this date.
-/

namespace SensorRules.Time

variable {year year' day first last : Int}

/-! ### Years -/

/-- A year is as long as it has days. -/
lemma yearStart_succ (year : Int) :
    yearStart (year + 1) = yearStart year + (if isLeapYear year then 366 else 365) := by
  have hleap : isLeapYear year = true ↔ year % 4 = 0 ∧ year % 100 ≠ 0 ∨ year % 400 = 0 := by
    simp [isLeapYear]
  simp only [yearStart]
  split
  next h => have := hleap.mp h; omega
  next h => have := mt hleap.mpr h; omega

lemma yearStart_mono (h : year ≤ year') : yearStart year ≤ yearStart year' := by
  simp only [yearStart]
  omega

/-- A day lies in its year. -/
lemma yearOfDay_spec (day : Int) :
    yearStart (yearOfDay day) ≤ day ∧ day < yearStart (yearOfDay day + 1) := by
  simp only [yearOfDay]
  split
  next h => simp only [yearStart] at h ⊢; omega
  next h =>
    split
    next h' => simp only [yearStart] at h h' ⊢; omega
    next h' => omega

/-- The year of a day lies between the years that the day lies between. -/
lemma yearOfDay_bounds (hfirst : yearStart first ≤ day) (hlast : day < yearStart (last + 1)) :
    first ≤ yearOfDay day ∧ yearOfDay day ≤ last := by
  obtain ⟨hstart, hend⟩ := yearOfDay_spec day
  constructor
  · refine Int.le_of_lt_add_one (Int.not_le.mp fun h => ?_)
    exact absurd (yearStart_mono h) (by omega)
  · refine Int.le_of_lt_add_one (Int.not_le.mp fun h => ?_)
    exact absurd (yearStart_mono h) (by omega)

/-! ### Dates -/

namespace Date

/-- The days of months of the given lengths. -/
def total (lengths : List Nat) : Nat :=
  lengths.foldr (· + ·) 0

lemma total_monthLengths (leap : Bool) :
    total (monthLengths leap) = if leap then 366 else 365 := by
  cases leap <;> rfl

/-- Days that lie within months of the given lengths come to the end in one of them, after the whole
months before it. -/
lemma splitMonths_spec {lengths : List Nat} {rest : Nat} (h : rest < total lengths) (month : Nat) :
    ∃ i < lengths.length, ∃ d < lengths.getD i 0,
      splitMonths month lengths rest = (month + i, d + 1) ∧ total (lengths.take i) + d = rest := by
  induction lengths generalizing month rest with
  | nil => exact absurd h (Nat.not_lt_zero rest)
  | cons length lengths ih =>
      rw [splitMonths]
      split
      next hlt => exact ⟨0, Nat.zero_lt_succ _, rest, hlt, rfl, Nat.zero_add rest⟩
      next hge =>
        rw [total, List.foldr_cons, ← total] at h
        obtain ⟨i, hi, d, hd, hsplit, hrest⟩ := @ih (rest - length) (by omega) (month + 1)
        refine ⟨i + 1, Nat.succ_lt_succ hi, d, hd, ?_, ?_⟩
        · rw [hsplit, Nat.add_assoc, Nat.add_comm 1 i]
        · rw [List.take_succ_cons, total, List.foldr_cons, ← total]
          omega

/-- The date of a day: so many whole months and so many days after the beginning of its year. -/
lemma ofDay_spec (day : Int) : ∃ i < 12, ∃ d,
    d < (monthLengths (isLeapYear (yearOfDay day))).getD i 0 ∧
      ofDay day = ⟨yearOfDay day, 1 + i, d + 1⟩ ∧
      yearStart (yearOfDay day) + total ((monthLengths (isLeapYear (yearOfDay day))).take i) + d =
        day := by
  obtain ⟨hstart, hend⟩ := yearOfDay_spec day
  have hlength := total_monthLengths (isLeapYear (yearOfDay day))
  have hrest : (day - yearStart (yearOfDay day)).toNat <
      total (monthLengths (isLeapYear (yearOfDay day))) := by
    rw [yearStart_succ] at hend
    rw [hlength]
    split at hend
    next hleap => rw [if_pos hleap]; omega
    next hleap => rw [if_neg hleap]; omega
  obtain ⟨i, hi, d, hd, hsplit, hsum⟩ := splitMonths_spec hrest 1
  refine ⟨i, hi, d, hd, ?_, by omega⟩
  rw [ofDay, hsplit]

/-- Every day has a date. -/
lemma isValid_ofDay (day : Int) : (ofDay day).IsValid := by
  obtain ⟨i, hi, d, hd, hdate, -⟩ := ofDay_spec day
  rw [hdate]
  refine ⟨Nat.le_add_right 1 i, by simp only; omega, Nat.succ_pos d, ?_⟩
  rw [Nat.add_sub_cancel_left]
  exact hd

/-- A day is the day of its date. -/
lemma toDay_ofDay (day : Int) : (ofDay day).toDay = day := by
  obtain ⟨i, -, d, -, hdate, hsum⟩ := ofDay_spec day
  rw [hdate, toDay]
  simp only [Nat.add_sub_cancel_left, Nat.add_sub_cancel]
  exact hsum

lemma IsValid.month_lt {d : Date} (h : d.IsValid) : d.month < 100 := by
  have := h.2.1
  omega

lemma IsValid.day_lt {d : Date} (h : d.IsValid) : d.day < 100 := by
  have hlength : ∀ leap, ∀ i < 12, (monthLengths leap).getD i 0 ≤ 31 := by decide
  obtain ⟨hmonth, hmonth', -, hday⟩ := h
  have := hlength (isLeapYear d.year) (d.month - 1) (by omega)
  omega

end Date

end SensorRules.Time
