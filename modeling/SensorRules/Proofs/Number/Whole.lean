import Mathlib.Tactic.Lemma
import SensorRules.Number.Whole

/-!
Whole numbers that are written and read again.

* `Number.unsigned?_eq_some_iff`: which texts write a number below a bound;
* `Number.Signed` and `Number.signed?_eq_some_iff`: which texts write a number with a sign;
* `Number.ofDigits_toDigits`, `Number.unsigned?_toDigits`: the decimal digits of a number are read
  as this number;
* `Number.eq_zero_of_toDigits`: they do not begin with a zero, unless the number is zero;
* `Number.ofDigits_padded`, `Number.length_padded`: a number that is filled up with zeros is the
  same number, and takes the place that is meant for it.
-/

namespace SensorRules.Number

variable {n bound width : Nat} {s : String} {c : Char} {cs : List Char}

/-! ### Reading -/

lemma digits?_eq_some_iff :
    digits? cs = some n ↔ (cs ≠ [] ∧ ∀ c ∈ cs, c.isDigit) ∧ ofDigits cs = n := by
  rw [digits?, Option.ite_none_right_eq_some, List.all_eq_true, Option.some.injEq]

/-- A text writes a number below a bound if it has digits of ASCII and nothing else, but for a plus
sign before them. -/
lemma unsigned?_eq_some_iff : unsigned? bound s = some n ↔
    (∃ cs, (s.toList = cs ∨ s.toList = '+' :: cs) ∧ (cs ≠ [] ∧ ∀ c ∈ cs, c.isDigit) ∧
      ofDigits cs = n) ∧ n < bound := by
  simp only [unsigned?, Option.filter_eq_some_iff, decide_eq_true_eq, digits?_eq_some_iff]
  refine and_congr_left fun _ => ?_
  split
  next body hs =>
    refine ⟨fun h => ⟨body, .inr hs, h⟩, ?_⟩
    rintro ⟨cs, rfl | heq, h⟩
    · -- A plus sign is no digit.
      exact absurd (h.1.2 '+' (by rw [hs]; exact List.mem_cons_self)) (by decide)
    · obtain rfl : cs = body := by simpa [hs] using heq.symm
      exact h
  next hs =>
    refine ⟨fun h => ⟨_, .inl rfl, h⟩, ?_⟩
    rintro ⟨cs, rfl | heq, h⟩
    · exact h
    · exact absurd heq (hs cs)

/-- Digits of ASCII with an optional sign before them, and the number that they write. -/
inductive Signed : List Char → Int → Prop
  | plain {cs : List Char} {n : Nat} : digits? cs = some n → Signed cs n
  | plus {cs : List Char} {n : Nat} : digits? cs = some n → Signed ('+' :: cs) n
  | minus {cs : List Char} {n : Nat} : digits? cs = some n → Signed ('-' :: cs) (-n)

lemma digits?_cons_of_not_isDigit (h : c.isDigit = false) : digits? (c :: cs) = none := by
  simp [digits?, h]

/-- A text writes a number in a range around zero if it is this number with an optional sign. -/
lemma signed?_eq_some_iff {k : Int} :
    signed? bound s = some k ↔ Signed s.toList k ∧ -(bound : Int) ≤ k ∧ k < bound := by
  simp only [signed?, Option.filter_eq_some_iff, Bool.and_eq_true, decide_eq_true_eq]
  refine and_congr_left fun _ => ?_
  split
  next cs hs =>
    rw [hs]
    refine ⟨fun h => ?_, fun h => ?_⟩
    · obtain ⟨_, hread, rfl⟩ := Option.map_eq_some_iff.mp h
      obtain ⟨n, hn, heq⟩ := Option.bind_eq_some_iff.mp hread
      obtain rfl := Option.some.inj heq
      exact .minus hn
    · cases h with
      | plain hn => simp [digits?_cons_of_not_isDigit] at hn
      | minus hn => rw [hn]; rfl
  next cs hs =>
    rw [hs]
    refine ⟨fun h => ?_, fun h => ?_⟩
    · obtain ⟨n, hn, rfl⟩ := Option.map_eq_some_iff.mp h
      exact .plus hn
    · cases h with
      | plain hn => simp [digits?_cons_of_not_isDigit] at hn
      | plus hn => rw [hn]; rfl
  next hminus hplus =>
    refine ⟨fun h => ?_, fun h => ?_⟩
    · obtain ⟨n, hn, rfl⟩ := Option.map_eq_some_iff.mp h
      exact .plain hn
    · generalize s.toList = cs at h hminus hplus ⊢
      cases h with
      | plain hn => rw [hn]; rfl
      | plus _ => exact absurd rfl (hplus _)
      | minus _ => exact absurd rfl (hminus _)

/-! ### Writing -/

lemma isDigit_of_mem_toDigits (h : c ∈ toDigits n) : c.isDigit :=
  Nat.isDigit_of_mem_toDigits (by decide) (by decide) h

lemma toDigits_ne_nil : toDigits n ≠ [] :=
  Nat.toDigits_ne_nil

/-- The digits of a number denote it. -/
@[simp]
lemma ofDigits_toDigits : ofDigits (toDigits n) = n :=
  Nat.ofDigitChars_ten_toDigits

/-- The digits of a number are read as this number. -/
lemma unsigned?_toDigits (h : n < bound) :
    unsigned? bound (String.ofList (toDigits n)) = some n := by
  refine unsigned?_eq_some_iff.mpr ⟨⟨toDigits n, .inl String.toList_ofList, ⟨?_, ?_⟩, ?_⟩, h⟩
  · exact toDigits_ne_nil
  · exact fun c => isDigit_of_mem_toDigits
  · exact ofDigits_toDigits

/-- Only zero is written with a zero at the beginning. -/
lemma eq_zero_of_toDigits (h : toDigits n = '0' :: cs) : n = 0 := by
  induction n using Nat.strongRecOn generalizing cs with
  | _ n ih =>
      rw [toDigits, Nat.toDigits_eq_if (by decide)] at h
      split at h
      next hlt =>
        have hdigit : ∀ d < 10, Nat.digitChar d = '0' → d = 0 := by decide
        exact hdigit n hlt (List.cons.inj h).1
      next =>
        -- The digits before the last one are those of a smaller number, which is not zero.
        obtain ⟨hnil, -⟩ | ⟨cs', hcs', -⟩ := List.append_eq_cons_iff.mp h
        · exact absurd hnil toDigits_ne_nil
        · have := ih (n / 10) (by omega) hcs'
          omega

/-! ### Filling up with zeros -/

lemma isDigit_of_mem_padded (h : c ∈ padded width n) : c.isDigit := by
  rcases List.mem_append.mp h with h | h
  · rw [List.eq_of_mem_replicate h]
    decide
  · exact isDigit_of_mem_toDigits h

lemma padded_ne_nil : padded width n ≠ [] :=
  List.append_ne_nil_of_right_ne_nil _ toDigits_ne_nil

/-- Zeros at the beginning do not count. -/
@[simp]
lemma ofDigits_padded : ofDigits (padded width n) = n := by
  have hzeros (k : Nat) : (List.replicate k '0').foldl (fun m c => 10 * m + digitValue c) 0 = 0 :=
    Nat.ofDigitChars_replicate_zero
  rw [padded, ofDigits, List.foldl_append, hzeros]
  exact ofDigits_toDigits

/-- A number takes the place that is meant for it, if it fits there. -/
lemma length_padded (hwidth : 0 < width) (h : n < Nat.pow 10 width) :
    (padded width n).length = width := by
  have hlength : (toDigits n).length ≤ width :=
    (Nat.length_toDigits_le_iff (by decide) hwidth).mpr h
  rw [padded, List.length_append, List.length_replicate]
  omega

end SensorRules.Number
