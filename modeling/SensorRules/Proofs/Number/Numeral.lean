import SensorRules.Number.Numeral
import SensorRules.Proofs.Number.Rounding
import SensorRules.Proofs.Number.Whole

/-!
The first numeral in a text, and the number that it denotes.

* `Numeral.Begins`: a digit, or a minus sign before a digit;
* `Numeral.EndsBefore`: a numeral to which nothing of what comes after it can be added
  (`Numeral.at?_eq_some_iff`);
* `Numeral.FirstIn`: the numeral at the leftmost place where one begins
  (`Numeral.first?_eq_some_iff`), which there is if there is a digit;
* `Numeral.value`: what the digits before and after the point denote;
* `firstNumber_nearest`: the number in a text is the one nearest to the first numeral, if its digits
  are those of ASCII.
-/

namespace SensorRules.Number

open Text (isDecimalDigit)

namespace Numeral

variable {n n' : Numeral} {c : Char} {cs ds rest after : List Char} {negative : Bool}

/-! ### Runs of digits -/

/-- No digit comes next. -/
def NoDigit (rest : List Char) : Prop :=
  ∀ c ∈ rest.head?, isDecimalDigit c = false

lemma noDigit_nil : NoDigit [] :=
  nofun

lemma noDigit_cons : NoDigit (c :: cs) ↔ isDecimalDigit c = false := by
  simp [NoDigit]

lemma noDigit_dropWhile (cs : List Char) : NoDigit (cs.dropWhile isDecimalDigit) := by
  intro c hc
  have hhead := List.head?_dropWhile_not isDecimalDigit cs
  rwa [Option.mem_def.mp hc] at hhead

/-- The digits at the beginning are a run of digits before which and after which there is no other
one. -/
lemma leadingDigits_eq_iff : leadingDigits cs = ds ↔
    ∃ rest, cs = ds ++ rest ∧ (∀ c ∈ ds, isDecimalDigit c) ∧ NoDigit rest := by
  constructor
  · rintro rfl
    exact ⟨cs.dropWhile isDecimalDigit, List.takeWhile_append_dropWhile.symm,
      fun c => List.all_eq_true.mp List.all_takeWhile c, noDigit_dropWhile cs⟩
  · rintro ⟨rest, rfl, hds, hrest⟩
    have hstop : rest.takeWhile isDecimalDigit = [] := by
      cases rest with
      | nil => rfl
      | cons c rest => simp [noDigit_cons.mp hrest]
    rw [leadingDigits, List.takeWhile_append_of_pos hds, hstop, List.append_nil]

lemma leadingDigits_eq_nil_iff : leadingDigits cs = [] ↔ NoDigit cs := by
  simp [leadingDigits_eq_iff]

/-! ### The longest numeral at a place -/

/-- The digits after the point with the point before them, if there are any. -/
def point (fraction : List Char) : List Char :=
  if fraction = [] then [] else '.' :: fraction

/-- The characters of a numeral. -/
def chars (n : Numeral) : List Char :=
  (if n.negative then ['-'] else []) ++ n.whole ++ point n.fraction

/-- All digits of a numeral. -/
def digits (n : Numeral) : List Char :=
  n.whole ++ n.fraction

/-- A numeral begins here: with a digit, or with a minus sign before a digit. -/
def Begins (cs : List Char) : Prop :=
  ∃ d rest, isDecimalDigit d ∧ (cs = d :: rest ∨ cs = '-' :: d :: rest)

/-- A numeral that takes as much as it can of what comes: no digit comes next, nor a point before a
digit if the numeral has no point yet. -/
structure EndsBefore (n : Numeral) (after : List Char) : Prop where
  whole_ne_nil : n.whole ≠ []
  isDecimalDigit : ∀ c ∈ n.digits, isDecimalDigit c
  noDigit : NoDigit after
  noFraction : n.fraction = [] → ∀ rest, after = '.' :: rest → NoDigit rest

/-- The numeral at the leftmost place of a text where one begins, as long as it can be. -/
def FirstIn (n : Numeral) (cs : List Char) : Prop :=
  ∃ before after, cs = before ++ (n.chars ++ after) ∧
    (∀ k < before.length, ¬ Begins (cs.drop k)) ∧ n.EndsBefore after

lemma point_append_of_ne_nil (h : ds ≠ []) : point ds ++ after = '.' :: (ds ++ after) := by
  rw [point, if_neg h, List.cons_append]

/-- After the digits before the point there is a point and a run of digits, unless no digit follows
the point. -/
lemma fractionPart_eq_iff : fractionPart rest = ds ↔ ∃ after, rest = point ds ++ after ∧
    (∀ c ∈ ds, isDecimalDigit c) ∧ (ds ≠ [] → NoDigit after) ∧
    (ds = [] → ∀ rest', after = '.' :: rest' → NoDigit rest') := by
  constructor
  · rintro rfl
    rw [fractionPart.eq_def]
    split
    next cs =>
      by_cases hnil : leadingDigits cs = []
      · rw [hnil]
        refine ⟨'.' :: cs, rfl, nofun, fun hne => absurd rfl hne, ?_⟩
        rintro - _ ⟨⟩
        exact leadingDigits_eq_nil_iff.mp hnil
      · obtain ⟨after, hcs, hdigits, hafter⟩ := leadingDigits_eq_iff.mp (rfl : leadingDigits cs = _)
        refine ⟨after, ?_, hdigits, fun _ => hafter, fun h => absurd h hnil⟩
        rw [point_append_of_ne_nil hnil, ← hcs]
    next hpoint =>
      exact ⟨rest, rfl, nofun, fun hne => absurd rfl hne, fun _ cs hcs => absurd hcs (hpoint cs)⟩
  · rintro ⟨after, rfl, hdigits, hafter, hfraction⟩
    by_cases hnil : ds = []
    · subst hnil
      change fractionPart after = []
      rw [fractionPart.eq_def]
      split
      next cs => exact leadingDigits_eq_nil_iff.mpr (hfraction rfl cs rfl)
      next => rfl
    · rw [point_append_of_ne_nil hnil]
      exact leadingDigits_eq_iff.mpr ⟨after, rfl, hdigits, hafter hnil⟩

/-- A point is no digit, so the digits before it end there. -/
lemma EndsBefore.noDigit_point (h : n.EndsBefore after) : NoDigit (point n.fraction ++ after) := by
  by_cases hnil : n.fraction = []
  · rw [point, if_pos hnil]
    exact h.noDigit
  · rw [point_append_of_ne_nil hnil]
    exact noDigit_cons.mpr (by decide)

lemma unsignedAt?_of_noDigit (h : NoDigit cs) : unsignedAt? negative cs = none := by
  rw [unsignedAt?, leadingDigits_eq_nil_iff.mpr h]

lemma unsignedAt?_append (hne : ds ≠ []) (hds : ∀ c ∈ ds, isDecimalDigit c) (hrest : NoDigit rest) :
    unsignedAt? negative (ds ++ rest) = some ⟨negative, ds, fractionPart rest⟩ := by
  have hleading : leadingDigits (ds ++ rest) = ds :=
    leadingDigits_eq_iff.mpr ⟨rest, rfl, hds, hrest⟩
  rw [unsignedAt?, hleading]
  split
  next => exact absurd rfl hne
  next => rw [List.drop_left]

lemma unsignedAt?_eq_none_iff : unsignedAt? negative cs = none ↔ NoDigit cs := by
  refine ⟨fun h => ?_, unsignedAt?_of_noDigit⟩
  by_contra hdigit
  have hne : leadingDigits cs ≠ [] := mt leadingDigits_eq_nil_iff.mp hdigit
  obtain ⟨rest, hcs, hwhole, hrest⟩ := leadingDigits_eq_iff.mp (rfl : leadingDigits cs = _)
  rw [hcs, unsignedAt?_append hne hwhole hrest] at h
  cases h

lemma unsignedAt?_eq_some_iff : unsignedAt? negative cs = some n ↔ n.negative = negative ∧
    ∃ after, cs = n.whole ++ (point n.fraction ++ after) ∧ n.EndsBefore after := by
  constructor
  · intro h
    obtain ⟨rest, hcs, hwhole, hrest⟩ := leadingDigits_eq_iff.mp (rfl : leadingDigits cs = _)
    generalize leadingDigits cs = whole at hcs hwhole
    subst hcs
    by_cases hne : whole = []
    · rw [hne, List.nil_append, unsignedAt?_of_noDigit hrest] at h
      cases h
    · rw [unsignedAt?_append hne hwhole hrest] at h
      obtain rfl := Option.some.inj h
      obtain ⟨after, hafter, hfraction, hend, hnone⟩ :=
        fractionPart_eq_iff.mp (rfl : fractionPart rest = _)
      refine ⟨rfl, after, by rw [← hafter], hne, ?_, ?_, hnone⟩
      · exact fun c hc => (List.mem_append.mp hc).elim (hwhole c) (hfraction c)
      · by_cases hnil : fractionPart rest = []
        · rw [hnil, point, if_pos rfl, List.nil_append] at hafter
          exact hafter ▸ hrest
        · exact hend hnil
  · rintro ⟨rfl, after, rfl, hend⟩
    have hfraction : fractionPart (point n.fraction ++ after) = n.fraction :=
      fractionPart_eq_iff.mpr ⟨after, rfl, fun c hc => hend.isDecimalDigit c
        (List.mem_append_right _ hc), fun _ => hend.noDigit, hend.noFraction⟩
    rw [unsignedAt?_append hend.whole_ne_nil
      (fun c hc => hend.isDecimalDigit c (List.mem_append_left _ hc)) hend.noDigit_point, hfraction]

lemma chars_append (n : Numeral) (after : List Char) : n.chars ++ after =
    (if n.negative then ['-'] else []) ++ (n.whole ++ (point n.fraction ++ after)) := by
  rw [chars, List.append_assoc, List.append_assoc]

/-- The digits before the point do not begin with a sign. -/
lemma EndsBefore.whole_append_ne (h : n.EndsBefore after) (rest rest' : List Char) :
    n.whole ++ rest ≠ '-' :: rest' := by
  obtain ⟨d, ds, hwhole⟩ := List.exists_cons_of_ne_nil h.whole_ne_nil
  have hd := h.isDecimalDigit d (by simp [digits, hwhole])
  rw [hwhole]
  rintro ⟨⟩
  exact absurd hd (by decide)

/-- The longest numeral at the beginning of a text is one that takes as much as it can. -/
lemma at?_eq_some_iff : at? cs = some n ↔ ∃ after, cs = n.chars ++ after ∧ n.EndsBefore after := by
  simp only [chars_append]
  rw [at?.eq_def]
  split
  next cs =>
    rw [unsignedAt?_eq_some_iff]
    constructor
    · rintro ⟨hsign, after, rfl, hend⟩
      exact ⟨after, by rw [if_pos hsign]; rfl, hend⟩
    · rintro ⟨after, hcs, hend⟩
      cases hsign : n.negative with
      | true =>
          rw [hsign] at hcs
          exact ⟨rfl, after, (List.cons.inj hcs).2, hend⟩
      | false =>
          rw [hsign] at hcs
          exact absurd hcs.symm (hend.whole_append_ne _ cs)
  next hminus =>
    rw [unsignedAt?_eq_some_iff]
    constructor
    · rintro ⟨hsign, after, rfl, hend⟩
      exact ⟨after, by rw [if_neg (by simp [hsign])]; rfl, hend⟩
    · rintro ⟨after, rfl, hend⟩
      cases hsign : n.negative with
      | true =>
          rw [hsign] at hminus
          exact absurd rfl (hminus _)
      | false => exact ⟨rfl, after, by simp, hend⟩

/-! ### The first place -/

lemma not_noDigit_iff : ¬ NoDigit cs ↔ ∃ d rest, isDecimalDigit d ∧ cs = d :: rest := by
  cases cs with
  | nil => simp [noDigit_nil]
  | cons c cs => simp [noDigit_cons]

lemma begins_iff : Begins cs ↔ ¬ NoDigit cs ∨ ∃ rest, cs = '-' :: rest ∧ ¬ NoDigit rest := by
  simp only [not_noDigit_iff, Begins]
  constructor
  · rintro ⟨d, rest, hd, hcs | hcs⟩
    · exact .inl ⟨d, rest, hd, hcs⟩
    · exact .inr ⟨d :: rest, hcs, d, rest, hd, rfl⟩
  · rintro (⟨d, rest, hd, hcs⟩ | ⟨_, hcs, d, rest, hd, rfl⟩)
    · exact ⟨d, rest, hd, .inl hcs⟩
    · exact ⟨d, rest, hd, .inr hcs⟩

/-- Where no numeral begins there is none to be read. -/
lemma at?_eq_none_iff : at? cs = none ↔ ¬ Begins cs := by
  rw [begins_iff, at?.eq_def]
  split
  next cs =>
    have hminus : NoDigit ('-' :: cs) := noDigit_cons.mpr (by decide)
    simp [unsignedAt?_eq_none_iff, hminus]
  next hminus =>
    have hnone : ¬ ∃ rest, cs = '-' :: rest ∧ ¬ NoDigit rest :=
      fun ⟨rest, hcs, _⟩ => hminus rest hcs
    simp [unsignedAt?_eq_none_iff, hnone]

lemma not_firstIn_nil : ¬ n.FirstIn [] := by
  rintro ⟨before, after, hcs, -, hend⟩
  have hwhole : n.whole = [] := by simp_all [chars]
  exact hend.whole_ne_nil hwhole

/-- The first numeral is at the beginning, or none begins there and it is the first one of what
follows. -/
lemma firstIn_cons : n.FirstIn (c :: cs) ↔
    at? (c :: cs) = some n ∨ ¬ Begins (c :: cs) ∧ n.FirstIn cs := by
  rw [at?_eq_some_iff]
  constructor
  · rintro ⟨before, after, hcs, hbefore, hend⟩
    cases before with
    | nil => exact .inl ⟨after, hcs, hend⟩
    | cons c' before =>
        obtain ⟨rfl, rfl⟩ := List.cons.inj hcs
        refine .inr ⟨hbefore 0 (Nat.zero_lt_succ _), before, after, rfl, fun k hk => ?_, hend⟩
        exact hbefore (k + 1) (Nat.succ_lt_succ hk)
  · rintro (⟨after, hcs, hend⟩ | ⟨hbegins, before, after, rfl, hbefore, hend⟩)
    · exact ⟨[], after, hcs, nofun, hend⟩
    · refine ⟨c :: before, after, rfl, fun k hk => ?_, hend⟩
      cases k with
      | zero => exact hbegins
      | succ k => exact hbefore k (Nat.lt_of_succ_lt_succ hk)

lemma first?_eq_some_iff : first? cs = some n ↔ n.FirstIn cs := by
  induction cs with
  | nil => simp [first?, not_firstIn_nil]
  | cons c cs ih => rw [first?, Option.or_eq_some_iff, ih, firstIn_cons, at?_eq_none_iff]

/-- There is no first numeral only if there is no digit. -/
lemma first?_eq_none_iff : first? cs = none ↔ ∀ c ∈ cs, isDecimalDigit c = false := by
  induction cs with
  | nil => simp [first?]
  | cons c cs ih =>
      rw [first?, Option.or_eq_none_iff, ih, at?_eq_none_iff, begins_iff, List.forall_mem_cons]
      constructor
      · rintro ⟨hbegins, hcs⟩
        exact ⟨noDigit_cons.mp (not_not.mp (not_or.mp hbegins).1), hcs⟩
      · rintro ⟨hc, hcs⟩
        refine ⟨not_or.mpr ⟨not_not.mpr (noDigit_cons.mpr hc), ?_⟩, hcs⟩
        rintro ⟨_, ⟨⟩, hrest⟩
        exact hrest fun d hd => hcs d (List.mem_of_mem_head? hd)

/-! ### What a numeral denotes -/

/-- The digits before the point count ones, those after it parts of one. -/
def magnitude (n : Numeral) : ℚ :=
  ofDigits n.whole + (ofDigits n.fraction : ℚ) / 10 ^ n.fraction.length

/-- What a numeral with digits of ASCII denotes. -/
def value (n : Numeral) : ℚ :=
  Binary64.signed n.negative n.magnitude

lemma ofDigits_append (ds es : List Char) :
    ofDigits (ds ++ es) = ofDigits ds * 10 ^ es.length + ofDigits es := by
  have hdigits (cs : List Char) (init : ℕ) :
      cs.foldl (fun n c => 10 * n + digitValue c) init = Nat.ofDigitChars 10 cs init := rfl
  rw [ofDigits, List.foldl_append, hdigits, hdigits, Nat.ofDigitChars_eq_ofDigitChars_zero]
  rw [Nat.mul_comm]
  rfl

/-- The digits taken together, divided as often as there are digits after the point. -/
lemma ofDigits_digits_div (n : Numeral) :
    (ofDigits n.digits : ℚ) / 10 ^ n.fraction.length = n.magnitude := by
  rw [digits, ofDigits_append, magnitude]
  push_cast
  rw [add_div, mul_div_cancel_right₀ _ (by positivity)]

lemma value?_eq (n : Numeral) : n.value? = (digits? n.digits).map fun digits =>
    Binary64.ofDecimal n.negative digits n.fraction.length := rfl

/-- A numeral has the nearest number as its value, if its digits are those of ASCII. -/
lemma value?_eq_some_iff {x : Binary64} (hne : n.whole ≠ []) : n.value? = some x ↔
    (∀ c ∈ n.digits, c.isDigit) ∧ x.negative = n.negative ∧ x.IsNearest n.value := by
  have hdigits : n.digits ≠ [] := List.append_ne_nil_of_left_ne_nil hne _
  rw [value?_eq, Option.map_eq_some_iff]
  simp only [digits?_eq_some_iff]
  constructor
  · rintro ⟨_, ⟨⟨-, hascii⟩, rfl⟩, hx⟩
    have hnearest := (Binary64.eq_ofDecimal_iff _ _ _).mp hx.symm
    rw [ofDigits_digits_div] at hnearest
    exact ⟨hascii, hnearest⟩
  · rintro ⟨hascii, hnearest⟩
    refine ⟨_, ⟨⟨hdigits, hascii⟩, rfl⟩, ((Binary64.eq_ofDecimal_iff _ _ _).mpr ?_).symm⟩
    rwa [ofDigits_digits_div]

lemma value?_eq_none_iff (hne : n.whole ≠ []) :
    n.value? = none ↔ ∃ c ∈ n.digits, c.isDigit = false := by
  have hdigits : n.digits ≠ [] := List.append_ne_nil_of_left_ne_nil hne _
  rw [value?_eq, Option.map_eq_none_iff, digits?]
  simp [hdigits]

lemma FirstIn.whole_ne_nil (h : n.FirstIn cs) : n.whole ≠ [] := by
  obtain ⟨_, _, _, _, hend⟩ := h
  exact hend.whole_ne_nil

end Numeral

open Numeral in
/-- **The number in a text.** A text with a digit of any script has just one first numeral: it stands
at the leftmost place where a digit or a minus sign before a digit stands, and takes from there the
sign, the longest run of digits and, if a point and a digit follow, the point and the longest run of
digits after it. The number in the text is the one nearest to this numeral, with its sign, if all
digits of the numeral are those of ASCII. There is no number in the text just if there is no digit in
it, or one of another script in the first numeral. -/
theorem firstNumber_nearest (s : String) :
    ((∃! n : Numeral, n.FirstIn s.toList) ↔ ∃ c ∈ s.toList, isDecimalDigit c) ∧
    (∀ x, firstNumber s = some x ↔ ∃ n : Numeral, n.FirstIn s.toList ∧
      (∀ c ∈ n.digits, c.isDigit) ∧ x.negative = n.negative ∧ x.IsNearest n.value) ∧
    (firstNumber s = none ↔ (∀ c ∈ s.toList, isDecimalDigit c = false) ∨
      ∃ n : Numeral, n.FirstIn s.toList ∧ ∃ c ∈ n.digits, c.isDigit = false) := by
  refine ⟨?_, fun x => ?_, ?_⟩
  · simp only [← first?_eq_some_iff]
    have hdigit : (∃ c ∈ s.toList, isDecimalDigit c) ↔ first? s.toList ≠ none := by
      simp [first?_eq_none_iff]
    rw [hdigit, Option.ne_none_iff_exists']
    refine ⟨fun ⟨n, hn, _⟩ => ⟨n, hn⟩, fun ⟨n, hn⟩ => ⟨n, hn, fun n' hn' => ?_⟩⟩
    exact Option.some.inj (hn'.symm.trans hn)
  · rw [firstNumber, Option.bind_eq_some_iff]
    refine exists_congr fun n => ?_
    rw [first?_eq_some_iff]
    exact and_congr_right fun hfirst => value?_eq_some_iff hfirst.whole_ne_nil
  · simp only [← first?_eq_none_iff, ← first?_eq_some_iff]
    rw [firstNumber]
    cases hfirst : first? s.toList with
    | none => simp
    | some n =>
        have hne : n.whole ≠ [] := (first?_eq_some_iff.mp hfirst).whole_ne_nil
        simp [value?_eq_none_iff hne]

/-- Only the sign next to the digits counts, and no point without digits after it. -/
example : firstNumber "t=--4. dB" = some (.ofDecimal true 4 0) := by decide +kernel

end SensorRules.Number
