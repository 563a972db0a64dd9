import Mathlib.Data.Prod.Lex
import Mathlib.Tactic.Lemma
import SensorRules.Time.Instant

/-!
Instants in the order of time, and what this order says of the time that passes.

* the order of `Instant`: by seconds and then by nanoseconds, so that a leap second comes after the
  second that it lengthens;
* `Instant.secondsSince_nonneg`: no seconds are missing from an instant to a later one, also over
  leap seconds;
* `Instant.secondsSince_le_iff`: whole seconds against the exact time;
* `Instant.secondsSince_mono`, `Instant.elapsedSince_mono`: outside leap seconds, what has lasted
  lasts longer at a later instant.
-/

namespace SensorRules.Time.Instant

variable {a b since : Instant}

/-- Seconds and nanoseconds, to be compared in this order. -/
def parts (t : Instant) : ℤ ×ₗ ℕ :=
  toLex (t.second, t.nano)

lemma parts_injective : Function.Injective parts := by
  rintro ⟨second, nano, _⟩ ⟨second', nano', _⟩ h
  obtain ⟨rfl, rfl⟩ := Prod.mk.inj (toLex.injective h)
  rfl

instance : LinearOrder Instant :=
  LinearOrder.lift' parts parts_injective

lemma le_iff : a ≤ b ↔ a.second < b.second ∨ a.second = b.second ∧ a.nano ≤ b.nano :=
  Prod.Lex.toLex_le_toLex

instance (t : Instant) : Decidable t.InLeapSecond :=
  inferInstanceAs (Decidable (nanosPerSecond ≤ t.nano))

/-- A second has at most one leap second in it. -/
lemma nano_lt (t : Instant) : t.nano < 2 * nanosPerSecond := by
  have hnano : t.nano < nanosPerSecond ∨ t.nano < 2 * nanosPerSecond ∧ t.second % 60 = 59 :=
    t.valid.2
  omega

/-- Between instants outside leap seconds, the time is the difference of the clocks. -/
lemma nanosSince_of_not_inLeapSecond (ha : ¬ a.InLeapSecond) (hb : ¬ b.InLeapSecond) :
    b.nanosSince a = (b.second - a.second) * nanosPerSecond + ((b.nano : Int) - a.nano) := by
  have hadjustment : leapAdjustment b a = 0 := by
    rw [leapAdjustment, if_neg fun h => ha h.2, if_neg fun h => hb h.2]
  rw [nanosSince, hadjustment, Int.add_zero]

/-- A leap second is taken off only if the later instant lies in it. -/
lemma leapAdjustment_eq (b a : Instant) : leapAdjustment b a = 0 ∨ leapAdjustment b a = 1 ∨
    leapAdjustment b a = -1 ∧ b.InLeapSecond := by
  rw [leapAdjustment]
  split_ifs with hearlier hlater
  · exact .inr (.inl rfl)
  · exact .inr (.inr ⟨rfl, hlater.2⟩)
  · exact .inl rfl

/-- No leap second lies between two instants of one second. -/
lemma leapAdjustment_of_second_eq (h : a.second = b.second) : leapAdjustment b a = 0 := by
  rw [leapAdjustment, h, if_neg fun hlt => Int.lt_irrefl _ hlt.1,
    if_neg fun hlt => Int.lt_irrefl _ hlt.1]

/-- Less than a second is missing from an instant to a later one. A part of a second is missing if
the earlier one lies in a leap second that is not counted. -/
lemma neg_lt_nanosSince (h : a ≤ b) : -(nanosPerSecond : Int) < b.nanosSince a := by
  have hlater := b.nano_lt
  have hearlier := a.nano_lt
  rw [nanosSince]
  rcases le_iff.mp h with hsecond | ⟨hsecond, hnano⟩
  · have hadjustment := leapAdjustment_eq b a
    simp only [InLeapSecond, nanosPerSecond] at hadjustment hlater hearlier ⊢
    rcases hadjustment with heq | heq | ⟨heq, hleap⟩ <;> rw [heq] <;> omega
  · rw [leapAdjustment_of_second_eq hsecond, hsecond]
    simp only [nanosPerSecond]
    omega

/-- **No seconds are missing** from an instant to a later one. -/
theorem secondsSince_nonneg (h : a ≤ b) : 0 ≤ b.secondsSince a := by
  have hmissing := neg_lt_nanosSince h
  rw [secondsSince]
  rcases Int.le_total 0 (b.nanosSince a) with hnonneg | hneg
  · exact Int.tdiv_nonneg hnonneg (Int.natCast_nonneg _)
  · -- What is missing is less than a whole second.
    have hzero : (-(b.nanosSince a)).tdiv nanosPerSecond = 0 :=
      Int.tdiv_eq_zero_of_lt (by omega) (by omega)
    rw [Int.neg_tdiv] at hzero
    omega

/-- Whole seconds are rounded toward zero: there are no more than `n` of them just if less than one
more has passed, or if all of them are still to come. -/
lemma secondsSince_le_iff {n : Int} : b.secondsSince a ≤ n ↔
    if 0 ≤ n then b.nanosSince a < (n + 1) * nanosPerSecond
    else b.nanosSince a ≤ n * nanosPerSecond := by
  rw [secondsSince]
  generalize b.nanosSince a = x
  rcases Int.le_total 0 x with hnonneg | hneg
  · rw [Int.tdiv_eq_ediv_of_nonneg hnonneg]
    simp only [nanosPerSecond]
    split <;> omega
  · have hopposite : x.tdiv nanosPerSecond = -(-x / nanosPerSecond) := by
      rw [← Int.tdiv_eq_ediv_of_nonneg (Int.neg_nonneg_of_nonpos hneg), Int.neg_tdiv, Int.neg_neg]
    rw [hopposite]
    simp only [nanosPerSecond]
    split <;> omega

/-- Outside leap seconds, no fewer seconds have passed at a later instant. -/
lemma secondsSince_mono (hsince : ¬ since.InLeapSecond) (ha : ¬ a.InLeapSecond)
    (hb : ¬ b.InLeapSecond) (h : a ≤ b) : a.secondsSince since ≤ b.secondsSince since := by
  have hnanos : a.nanosSince since ≤ b.nanosSince since := by
    rw [nanosSince_of_not_inLeapSecond hsince ha, nanosSince_of_not_inLeapSecond hsince hb]
    simp only [InLeapSecond, nanosPerSecond] at ha hb ⊢
    rcases le_iff.mp h with hsecond | ⟨hsecond, hnano⟩ <;> omega
  exact Int.tdiv_le_tdiv (by decide) hnanos

/-- **What has lasted lasts longer** at a later instant, outside leap seconds. -/
theorem elapsedSince_mono (hsince : ¬ since.InLeapSecond) (ha : ¬ a.InLeapSecond)
    (hb : ¬ b.InLeapSecond) (h : a ≤ b) : a.elapsedSince since ≤ b.elapsedSince since :=
  Int.toNat_le_toNat (secondsSince_mono hsince ha hb h)

end SensorRules.Time.Instant
