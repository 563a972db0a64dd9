import Mathlib.Algebra.Order.AbsoluteValue.Basic
import Mathlib.Algebra.Order.Ring.Rat
import Mathlib.Tactic.FieldSimp
import Mathlib.Tactic.Lemma
import Mathlib.Tactic.Linarith
import Mathlib.Tactic.Positivity
import Mathlib.Tactic.Ring
import SensorRules.Number.Binary64

/-!
What a double-precision number stands for, and the one that is nearest to a given number.

* `Binary64.units` and `Binary64.magnitude`: what a code stands for, read off its two fields; greater
  codes stand for more (`units_strictMono`);
* `Binary64.value`: the number that sign and code stand for;
* `Binary64.IsNearest`: no other number is nearer, and of two that are equally near it is the one
  with the even code. There is only one of each sign (`isNearest_signed_iff`);
* `Binary64.isNearestCode_nearestCode`: rounding a ratio gives the nearest code;
* `Binary64.eq_ofDecimal_iff`: the number made of decimal digits is the nearest one.
-/

namespace SensorRules.Number.Binary64

variable {code lower c exponent q num den : ℕ} {r : ℚ} {x : Binary64}

/-! ### What codes stand for -/

/-- The units of `2 ^ -1074` that a code stands for. Above the least exponent, the fraction is that
of a number with a leading one. -/
def units (code : ℕ) : ℕ :=
  if code / 2 ^ 52 = 0 then code % 2 ^ 52
  else (2 ^ 52 + code % 2 ^ 52) * 2 ^ (code / 2 ^ 52 - 1)

/-- The units that make up one. -/
def unitsPerOne : ℕ := Nat.pow 2 1074

lemma unitsPerOne_pos : 0 < unitsPerOne := by
  unfold unitsPerOne
  generalize 1074 = n
  exact Nat.two_pow_pos n

/-- The number that a code stands for. That of infinity is the next one after all finite numbers. -/
def magnitude (code : ℕ) : ℚ :=
  units code / unitsPerOne

/-- Also a count with one binary digit more stands at its place, since it is that of the next
exponent. -/
lemma units_eq (hcount : q ≤ 2 ^ 53) (hlead : exponent = 0 ∨ 2 ^ 52 ≤ q) :
    units (exponent * 2 ^ 52 + q) = q * 2 ^ exponent := by
  rcases Nat.lt_or_ge q (2 ^ 52) with hsmall | hlarge
  · obtain rfl : exponent = 0 := hlead.resolve_right (by omega)
    rw [units, if_pos (by omega)]
    omega
  rcases Nat.lt_or_eq_of_le hcount with hlt | rfl
  · have hfield : (exponent * 2 ^ 52 + q) / 2 ^ 52 = exponent + 1 := by omega
    have hfraction : 2 ^ 52 + (exponent * 2 ^ 52 + q) % 2 ^ 52 = q := by omega
    rw [units, hfield, hfraction, if_neg (Nat.succ_ne_zero exponent), Nat.add_sub_cancel]
  · have hfield : (exponent * 2 ^ 52 + 2 ^ 53) / 2 ^ 52 = exponent + 2 := by omega
    have hfraction : (exponent * 2 ^ 52 + 2 ^ 53) % 2 ^ 52 = 0 := by omega
    rw [units, hfield, hfraction, if_neg (Nat.succ_ne_zero _), Nat.add_zero]
    change 2 ^ 52 * 2 ^ (exponent + 1) = 2 ^ 53 * 2 ^ exponent
    ring

/-- Every code is an exponent and a count of leading digits. -/
lemma exists_parts (code : ℕ) : ∃ exponent q, q < 2 ^ 53 ∧ (exponent = 0 ∨ 2 ^ 52 ≤ q) ∧
    code = exponent * 2 ^ 52 + q := by
  rcases Nat.eq_zero_or_pos (code / 2 ^ 52) with hzero | hpos
  · exact ⟨0, code, by omega, .inl rfl, by omega⟩
  · exact ⟨code / 2 ^ 52 - 1, 2 ^ 52 + code % 2 ^ 52, by omega, .inr (by omega), by omega⟩

lemma units_strictMono : StrictMono units := by
  refine strictMono_nat_of_lt_succ fun code => ?_
  obtain ⟨exponent, q, hcount, hlead, rfl⟩ := exists_parts code
  rw [Nat.add_assoc, units_eq (Nat.le_of_lt hcount) hlead,
    units_eq (Nat.succ_le_of_lt hcount) (hlead.imp_right Nat.le_succ_of_le)]
  exact Nat.mul_lt_mul_of_pos_right (Nat.lt_succ_self q) (Nat.two_pow_pos exponent)

lemma magnitude_strictMono : StrictMono magnitude := by
  intro a b hlt
  have hunits : (units a : ℚ) < units b := Nat.cast_lt.mpr (units_strictMono hlt)
  exact div_lt_div_of_pos_right hunits (Nat.cast_pos.mpr unitsPerOne_pos)

lemma magnitude_nonneg (code : ℕ) : 0 ≤ magnitude code :=
  div_nonneg (Nat.cast_nonneg _) (Nat.cast_nonneg _)

lemma magnitude_zero : magnitude 0 = 0 := by
  have hunits : units 0 = 0 := by decide
  rw [magnitude, hunits, Nat.cast_zero, zero_div]

/-! ### The nearest code -/

/-- No code up to infinity is nearer, and if another one is equally near, then this one is even. -/
structure IsNearestCode (code : ℕ) (r : ℚ) : Prop where
  le_infinity : code ≤ infinityCode
  nearest : ∀ c ≤ infinityCode, |magnitude code - r| ≤ |magnitude c - r|
  even : ∀ c ≤ infinityCode, c ≠ code → |magnitude c - r| = |magnitude code - r| → Even code

/-- Codes below one that does not exceed `r` are farther from it. -/
lemma abs_lt_of_lt_lower (hlower : magnitude lower ≤ r) (hlt : c < lower) :
    |magnitude lower - r| < |magnitude c - r| := by
  have hstrict := magnitude_strictMono hlt
  rw [abs_of_nonpos (by linarith), abs_of_nonpos (by linarith)]
  linarith

/-- Codes above one that is not less than `r` are farther from it. -/
lemma abs_lt_of_upper_lt (hupper : r ≤ magnitude code) (hlt : code < c) :
    |magnitude code - r| < |magnitude c - r| := by
  have hstrict := magnitude_strictMono hlt
  rw [abs_of_nonneg (by linarith), abs_of_nonneg (by linarith)]
  linarith

/-- With `r` between two codes that follow one another, the nearest of the two is the nearest of
all. -/
lemma isNearestCode_of_neighbours (hlt : lower < infinityCode) (hlower : magnitude lower ≤ r)
    (hupper : r ≤ magnitude (lower + 1)) (hcode : code = lower ∨ code = lower + 1)
    (hnear : ∀ c, c = lower ∨ c = lower + 1 → |magnitude code - r| ≤ |magnitude c - r| ∧
      (c ≠ code → |magnitude c - r| = |magnitude code - r| → Even code)) :
    IsNearestCode code r := by
  have hothers : ∀ c, (c = lower ∨ c = lower + 1) ∨ |magnitude code - r| < |magnitude c - r| := by
    intro c
    rcases Nat.lt_trichotomy c lower with hc | hc | hc
    · exact .inr ((hnear lower (.inl rfl)).1.trans_lt (abs_lt_of_lt_lower hlower hc))
    · exact .inl (.inl hc)
    · rcases Nat.eq_or_lt_of_le hc with hc | hc
      · exact .inl (.inr hc.symm)
      · exact .inr ((hnear (lower + 1) (.inr rfl)).1.trans_lt (abs_lt_of_upper_lt hupper hc))
  refine ⟨by omega, fun c _ => ?_, fun c _ hne heq => ?_⟩
  · exact (hothers c).elim (fun hc => (hnear c hc).1) le_of_lt
  · exact (hothers c).elim (fun hc => (hnear c hc).2 hne heq) fun hlt => absurd heq hlt.ne'

/-- The lower one of two such codes is the nearest if the upper one is farther, or equally far and
odd. -/
lemma isNearestCode_lower (hlt : lower < infinityCode) (hlower : magnitude lower ≤ r)
    (hupper : r ≤ magnitude (lower + 1))
    (hnear : r - magnitude lower < magnitude (lower + 1) - r ∨
      r - magnitude lower = magnitude (lower + 1) - r ∧ Even lower) : IsNearestCode lower r := by
  refine isNearestCode_of_neighbours hlt hlower hupper (.inl rfl) ?_
  rintro c (rfl | rfl)
  · exact ⟨le_rfl, fun hne => absurd rfl hne⟩
  · rw [abs_sub_comm (magnitude lower), abs_of_nonneg (sub_nonneg.mpr hlower),
      abs_of_nonneg (sub_nonneg.mpr hupper)]
    refine ⟨hnear.elim le_of_lt fun h => h.1.le, fun _ heq => ?_⟩
    exact (hnear.resolve_left heq.not_gt).2

/-- The upper one is the nearest if the lower one is farther, or equally far and odd. -/
lemma isNearestCode_upper (hlt : lower < infinityCode) (hlower : magnitude lower ≤ r)
    (hupper : r ≤ magnitude (lower + 1))
    (hnear : magnitude (lower + 1) - r < r - magnitude lower ∨
      r - magnitude lower = magnitude (lower + 1) - r ∧ Even (lower + 1)) :
    IsNearestCode (lower + 1) r := by
  refine isNearestCode_of_neighbours hlt hlower hupper (.inr rfl) ?_
  rintro c (rfl | rfl)
  · rw [abs_sub_comm (magnitude c), abs_of_nonneg (sub_nonneg.mpr hlower),
      abs_of_nonneg (sub_nonneg.mpr hupper)]
    refine ⟨hnear.elim le_of_lt fun h => h.1.ge, fun _ heq => ?_⟩
    exact (hnear.resolve_left heq.not_gt).2
  · exact ⟨le_rfl, fun hne => absurd rfl hne⟩

/-- Beyond all finite numbers infinity is the nearest. -/
lemma isNearestCode_infinityCode (h : magnitude infinityCode ≤ r) :
    IsNearestCode infinityCode r := by
  refine ⟨le_rfl, fun c hc => ?_, fun c hc hne heq => ?_⟩
  · rcases Nat.eq_or_lt_of_le hc with rfl | hlt
    · exact le_rfl
    · exact (abs_lt_of_lt_lower h hlt).le
  · exact absurd heq (abs_lt_of_lt_lower h (Nat.lt_of_le_of_ne hc hne)).ne'

/-- Two codes that are both nearest have the same parity, and between them there is none. -/
lemma IsNearestCode.unique (h : IsNearestCode code r) (h' : IsNearestCode c r) : code = c := by
  wlog hle : code ≤ c generalizing code c
  · exact (this h' h (Nat.le_of_not_le hle)).symm
  by_contra hne
  have hlt : code < c := Nat.lt_of_le_of_ne hle hne
  have hdist : |magnitude code - r| = |magnitude c - r| :=
    le_antisymm (h.nearest c h'.le_infinity) (h'.nearest code h.le_infinity)
  obtain ⟨m, hm⟩ := h.even c h'.le_infinity (Ne.symm hne) hdist.symm
  obtain ⟨n, hn⟩ := h'.even code h.le_infinity hne hdist
  -- the code after the lower one lies strictly between both, so it is nearer
  have hbetween : code + 1 < c := by omega
  have hleft := magnitude_strictMono (Nat.lt_succ_self code)
  have hright := magnitude_strictMono hbetween
  have hnext := h.nearest (code + 1) (hbetween.le.trans h'.le_infinity)
  rcases abs_cases (magnitude code - r) with ⟨h1, h1'⟩ | ⟨h1, h1'⟩ <;>
    rcases abs_cases (magnitude c - r) with ⟨h2, h2'⟩ | ⟨h2, h2'⟩ <;>
    rcases abs_cases (magnitude (code + 1) - r) with ⟨h3, h3'⟩ | ⟨h3, h3'⟩ <;>
    linarith

/-! ### Rounding -/

/-- Rounding a ratio goes down or up: as the rest is less or more than one half, and at one half to
the even number. -/
lemma roundHalfEven_cases (num den : ℕ) :
    (roundHalfEven num den = num / den ∧ (2 * (num % den) < den ∨
      2 * (num % den) = den ∧ Even (num / den))) ∨
    (roundHalfEven num den = num / den + 1 ∧ (den < 2 * (num % den) ∨
      2 * (num % den) = den ∧ Even (num / den + 1))) := by
  simp only [roundHalfEven]
  split_ifs with hless hmore
  · exact .inl ⟨rfl, .inl hless⟩
  · exact .inr ⟨rfl, .inl hmore⟩
  · have hhalf : 2 * (num % den) = den := by omega
    rcases Nat.mod_two_eq_zero_or_one (num / den) with heven | hodd
    · exact .inl ⟨by rw [heven, Nat.add_zero], .inr ⟨hhalf, Nat.even_iff.mpr heven⟩⟩
    · exact .inr ⟨by rw [hodd], .inr ⟨hhalf, Nat.even_iff.mpr (by omega)⟩⟩

/-- The exponent that leaves 53 leading binary digits. -/
lemma leading_digits (n : ℕ) :
    n / 2 ^ (n.log2 - 52) < 2 ^ 53 ∧ (n.log2 - 52 = 0 ∨ 2 ^ 52 ≤ n / 2 ^ (n.log2 - 52)) := by
  have hpos : 0 < 2 ^ (n.log2 - 52) := Nat.two_pow_pos _
  constructor
  · rw [Nat.div_lt_iff_lt_mul hpos, ← Nat.pow_add]
    calc n < 2 ^ (n.log2 + 1) := Nat.lt_log2_self
      _ ≤ 2 ^ (53 + (n.log2 - 52)) := Nat.pow_le_pow_right Nat.two_pos (by omega)
  · rcases Nat.eq_zero_or_pos (n.log2 - 52) with hzero | hlarge
    · exact .inl hzero
    have hn : n ≠ 0 := by
      rintro rfl
      exact absurd hlarge (by decide)
    refine .inr ((Nat.le_div_iff_mul_le hpos).mpr ?_)
    calc 2 ^ 52 * 2 ^ (n.log2 - 52) = 2 ^ n.log2 := by rw [← Nat.pow_add]; congr 1; omega
      _ ≤ n := Nat.log2_self_le hn

lemma even_code (exponent n : ℕ) : Even (exponent * 2 ^ 52 + n) ↔ Even n := by
  have hmul : Even (exponent * 2 ^ 52) := (even_two.pow_of_ne_zero (by decide)).mul_left exponent
  rw [Nat.even_add, iff_true_left hmul]

/-- Where a ratio lies between the two codes of an exponent that are next to it: in steps of the
same length, it is as far from the lower one as the rest of the division tells. -/
lemma exists_step (hden : 0 < den) {rest grid count : ℕ} (hgrid : grid = den * 2 ^ exponent)
    (hsplit : grid * count + rest = num * unitsPerOne) (hcount : count < 2 ^ 53)
    (hlead : exponent = 0 ∨ 2 ^ 52 ≤ count) :
    ∃ step : ℚ, 0 < step ∧
      (num : ℚ) / den - magnitude (exponent * 2 ^ 52 + count) = rest * step ∧
      magnitude (exponent * 2 ^ 52 + count + 1) - (num : ℚ) / den = (grid - rest) * step := by
  have hden' : (0 : ℚ) < den := Nat.cast_pos.mpr hden
  have hunits : (0 : ℚ) < unitsPerOne := Nat.cast_pos.mpr unitsPerOne_pos
  have hsplit' : (den : ℚ) * 2 ^ exponent * count + rest = num * unitsPerOne := by
    rw [hgrid] at hsplit
    exact_mod_cast hsplit
  refine ⟨1 / (den * unitsPerOne), one_div_pos.mpr (mul_pos hden' hunits), ?_, ?_⟩
  · rw [magnitude, units_eq (Nat.le_of_lt hcount) hlead]
    push_cast
    field_simp
    linarith
  · rw [magnitude, Nat.add_assoc,
      units_eq (Nat.succ_le_of_lt hcount) (hlead.imp_right Nat.le_succ_of_le), hgrid]
    push_cast
    field_simp
    linarith

/-- In steps of one length, the rest is nearer to the beginning or to the end of the grid as it is
less or more than one half. -/
lemma rest_mul_step (grid rest : ℕ) {step : ℚ} (hstep : 0 < step) :
    ((rest : ℚ) * step < (grid - rest) * step ↔ 2 * rest < grid) ∧
    (((grid : ℚ) - rest) * step < rest * step ↔ grid < 2 * rest) ∧
    ((rest : ℚ) * step = (grid - rest) * step ↔ 2 * rest = grid) := by
  refine ⟨?_, ?_, ?_⟩
  · rw [mul_lt_mul_iff_left₀ hstep, lt_sub_iff_add_lt, ← two_mul]
    exact_mod_cast Iff.rfl
  · rw [mul_lt_mul_iff_left₀ hstep, sub_lt_iff_lt_add, ← two_mul]
    exact_mod_cast Iff.rfl
  · rw [mul_left_inj' hstep.ne', eq_sub_iff_add_eq, ← two_mul]
    exact_mod_cast Iff.rfl

lemma nearestCode_eq (num den : ℕ) : nearestCode num den =
    min infinityCode (((num * unitsPerOne / den).log2 - 52) * 2 ^ 52 +
      roundHalfEven (num * unitsPerOne) (den * 2 ^ ((num * unitsPerOne / den).log2 - 52))) := by
  unfold nearestCode unitsPerOne
  generalize num * Nat.pow 2 1074 = total
  rfl

/-- **Rounding**: the code of a ratio is the one that is nearest to it. -/
theorem isNearestCode_nearestCode (num : ℕ) (hden : 0 < den) :
    IsNearestCode (nearestCode num den) ((num : ℚ) / den) := by
  obtain ⟨exponent, hexponent⟩ : ∃ exponent, (num * unitsPerOne / den).log2 - 52 = exponent :=
    ⟨_, rfl⟩
  obtain ⟨grid, hgrid⟩ : ∃ grid, grid = den * 2 ^ exponent := ⟨_, rfl⟩
  obtain ⟨hcount, hlead⟩ := leading_digits (num * unitsPerOne / den)
  rw [hexponent, Nat.div_div_eq_div_mul, ← hgrid] at hcount hlead
  have hcode := nearestCode_eq num den
  rw [hexponent, ← hgrid] at hcode
  have hpos : 0 < grid := hgrid ▸ Nat.mul_pos hden (Nat.two_pow_pos exponent)
  have hrest := Nat.mod_lt (num * unitsPerOne) hpos
  have hround := roundHalfEven_cases (num * unitsPerOne) grid
  obtain ⟨step, hstep, hlower, hupper⟩ :=
    exists_step hden hgrid (Nat.div_add_mod _ grid) hcount hlead
  generalize num * unitsPerOne / grid = count at *
  generalize num * unitsPerOne % grid = rest at *
  generalize (num : ℚ) / den = r at *
  obtain ⟨hless, hmore, hequal⟩ := rest_mul_step grid rest hstep
  have hnonneg : 0 ≤ (rest : ℚ) * step := mul_nonneg (Nat.cast_nonneg rest) hstep.le
  have hgap : 0 < ((grid : ℚ) - rest) * step := mul_pos (sub_pos.mpr (Nat.cast_lt.mpr hrest)) hstep
  rcases Nat.lt_or_ge (exponent * 2 ^ 52 + count) infinityCode with hfinite | hinfinite
  · rcases hround with ⟨hq, hnear⟩ | ⟨hq, hnear⟩
    · rw [hcode, hq, min_eq_right hfinite.le]
      refine isNearestCode_lower hfinite (by linarith) (by linarith) ?_
      rwa [hlower, hupper, hless, hequal, even_code]
    · have hnext : exponent * 2 ^ 52 + count + 1 ≤ infinityCode := hfinite
      rw [hcode, hq, ← Nat.add_assoc, min_eq_right hnext]
      refine isNearestCode_upper hfinite (by linarith) (by linarith) ?_
      rwa [hlower, hupper, hmore, hequal, Nat.add_assoc, even_code]
  · -- the ratio is not less than infinity
    have hle : magnitude infinityCode ≤ magnitude (exponent * 2 ^ 52 + count) :=
      magnitude_strictMono.monotone hinfinite
    rw [hcode, min_eq_left (by omega)]
    exact isNearestCode_infinityCode (by linarith)

/-! ### Numbers with a sign -/

/-- A number with a sign before it. -/
def signed (negative : Bool) (r : ℚ) : ℚ :=
  if negative then -r else r

/-- The number that sign and code stand for. -/
def value (x : Binary64) : ℚ :=
  signed x.negative (magnitude x.code)

/-- No number up to infinity on either side is nearer to `q`, and if another one is equally near,
then the code of this one is even. -/
structure IsNearest (x : Binary64) (q : ℚ) : Prop where
  le_infinity : x.code ≤ infinityCode
  nearest : ∀ y : Binary64, y.code ≤ infinityCode → |x.value - q| ≤ |y.value - q|
  even : ∀ y : Binary64, y.code ≤ infinityCode → y.value ≠ x.value →
    |y.value - q| = |x.value - q| → Even x.code

lemma abs_signed_sub_signed (negative : Bool) (a b : ℚ) :
    |signed negative a - signed negative b| = |a - b| := by
  cases negative with
  | false => rfl
  | true =>
      rw [signed, signed, if_pos rfl, if_pos rfl, neg_sub_neg]
      exact abs_sub_comm b a

/-- Numbers on different sides of zero are as far from each other as both are from zero. -/
lemma abs_signed_sub_of_ne {a b : ℚ} (ha : 0 ≤ a) (hb : 0 ≤ b) {negative negative' : Bool}
    (hne : negative ≠ negative') : |signed negative a - signed negative' b| = a + b := by
  have hsum : |a + b| = a + b := abs_of_nonneg (add_nonneg ha hb)
  cases negative <;> cases negative'
  · exact absurd rfl hne
  · change |a - -b| = a + b
    rw [sub_neg_eq_add, hsum]
  · change |-a - b| = a + b
    rw [← neg_add', abs_neg, hsum]
  · exact absurd rfl hne

/-- On the other side of zero nothing is nearer. -/
lemma abs_sub_le_abs_signed {a b : ℚ} (ha : 0 ≤ a) (hb : 0 ≤ b) (negative negative' : Bool) :
    |a - b| ≤ |signed negative a - signed negative' b| := by
  by_cases hsign : negative = negative'
  · rw [hsign, abs_signed_sub_signed]
  · rw [abs_signed_sub_of_ne ha hb hsign, abs_le]
    constructor <;> linarith

lemma signed_injective (negative : Bool) : Function.Injective (signed negative) := by
  intro a b heq
  have habs : |a - b| = 0 := by
    rw [← abs_signed_sub_signed negative, heq, sub_self, abs_zero]
  exact sub_eq_zero.mp (abs_eq_zero.mp habs)

/-- A number is the nearest one if its code is. -/
lemma isNearest_signed_iff (hr : 0 ≤ r) :
    x.IsNearest (signed x.negative r) ↔ IsNearestCode x.code r := by
  have hself (c : ℕ) : |value ⟨x.negative, c⟩ - signed x.negative r| = |magnitude c - r| :=
    abs_signed_sub_signed _ _ _
  have hother (y : Binary64) : |magnitude y.code - r| ≤ |y.value - signed x.negative r| :=
    abs_sub_le_abs_signed (magnitude_nonneg _) hr _ _
  constructor
  · intro h
    refine ⟨h.le_infinity, fun c hc => ?_, fun c hc hne heq => ?_⟩
    · rw [← hself, ← hself c]
      exact h.nearest ⟨x.negative, c⟩ hc
    · refine h.even ⟨x.negative, c⟩ hc (fun hvalue => hne ?_) ?_
      · exact magnitude_strictMono.injective (signed_injective _ hvalue)
      · rw [hself c, heq, ← hself]
  · intro h
    refine ⟨h.le_infinity, fun y hy => ?_, fun y hy hne heq => ?_⟩
    · exact (hself x.code).trans_le ((h.nearest y.code hy).trans (hother y))
    · have heq' : |y.value - signed x.negative r| = |magnitude x.code - r| :=
        heq.trans (hself x.code)
      by_cases hcode : y.code = x.code
      · -- of both signs the same is as near, so zero is not nearer, and the code is that of zero
        have hsign : y.negative ≠ x.negative := by
          intro hsign
          rw [value, value, hsign, hcode] at hne
          exact hne rfl
        rw [value, abs_signed_sub_of_ne (magnitude_nonneg _) hr hsign, hcode] at heq'
        have hzero := h.nearest 0 (Nat.zero_le _)
        rw [← heq', magnitude_zero, zero_sub, abs_neg, abs_of_nonneg hr] at hzero
        have hcode' : magnitude x.code = magnitude 0 := by
          rw [magnitude_zero]
          exact le_antisymm (by linarith) (magnitude_nonneg _)
        rw [magnitude_strictMono.injective hcode']
        exact Even.zero
      · exact h.even y.code hy hcode
          (le_antisymm ((hother y).trans_eq heq') (h.nearest y.code hy))

/-- **The number of decimal digits** is the nearest one to what the digits denote, and there is only
one with this sign. -/
theorem eq_ofDecimal_iff (negative : Bool) (digits places : ℕ) :
    x = ofDecimal negative digits places ↔ x.negative = negative ∧
      x.IsNearest (signed negative ((digits : ℚ) / 10 ^ places)) := by
  have hnonneg : (0 : ℚ) ≤ (digits : ℚ) / 10 ^ places := by positivity
  have hcode : IsNearestCode (nearestCode digits (Nat.pow 10 places))
      ((digits : ℚ) / 10 ^ places) := by
    have hpow : 0 < Nat.pow 10 places := Nat.pow_pos (by decide)
    have h := isNearestCode_nearestCode digits hpow
    rwa [Nat.pow_eq, Nat.cast_pow, Nat.cast_ofNat] at h
  constructor
  · rintro rfl
    exact ⟨rfl, (isNearest_signed_iff hnonneg).mpr hcode⟩
  · rintro ⟨rfl, h⟩
    have heq := ((isNearest_signed_iff hnonneg).mp h).unique hcode
    rw [ofDecimal, ← heq]

end SensorRules.Number.Binary64
