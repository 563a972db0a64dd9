import SensorRules.Proofs.Number.Whole
import SensorRules.Proofs.Text.Blank
import SensorRules.Proofs.Time.Calendar
import SensorRules.Time.Timestamp

/-!
Instants that are written and read again.

* `digitsUpTo?_append`: a run of digits is read where it fills its place or no digit comes next;
* `year?_yearText`, `nanos?_fractionText`: a year of either sign, and the digits of a second with
  as many of them as there are;
* `Instant.ofText?_toText`: every instant is read from its own text, also one in a leap second.
-/

namespace SensorRules.Time

open Number (ofDigits padded)
open Text (skipBlanks)

variable {bound width n nano : Nat} {ds rest : List Char} {c : Char}

/-! ### Digits -/

/-- A run of digits is read where it fills its place or no digit comes next. -/
lemma digitsUpTo?_append (hne : ds ≠ []) (hds : ∀ c ∈ ds, c.isDigit) (hlength : ds.length ≤ width)
    (hstop : ds.length = width ∨ ∀ c ∈ rest.head?, c.isDigit = false) :
    digitsUpTo? width (ds ++ rest) = some (ofDigits ds, rest) := by
  have hrest : (rest.take (width - ds.length)).takeWhile Char.isDigit = [] := by
    rcases hstop with hfull | hstop
    · rw [hfull, Nat.sub_self]
      rfl
    · rcases rest with _ | ⟨c, rest⟩
      · rw [List.take_nil]
        rfl
      · rcases width - ds.length with _ | k
        · rfl
        · have hc : c.isDigit = false := hstop c rfl
          simp [hc]
  have hrun : ((ds ++ rest).take width).takeWhile Char.isDigit = ds := by
    rw [List.take_append, List.take_of_length_le hlength, List.takeWhile_append_of_pos hds, hrest,
      List.append_nil]
  rw [digitsUpTo?, hrun]
  split
  next => exact absurd rfl hne
  next => rw [List.drop_left]

/-- A number that fills its place is read as this number. -/
lemma digitsUpTo?_padded (hwidth : 0 < width) (h : n < Nat.pow 10 width) :
    digitsUpTo? width (padded width n ++ rest) = some (n, rest) := by
  have hlength := Number.length_padded hwidth h
  have hdigits : ∀ c ∈ padded width n, c.isDigit := fun _ => Number.isDigit_of_mem_padded
  rw [digitsUpTo?_append Number.padded_ne_nil hdigits (Nat.le_of_eq hlength) (.inl hlength),
    Number.ofDigits_padded]

/-- A number before something that is no digit is read as this number. -/
lemma digitsUpTo?_padded_cons (hbound : (padded width n).length ≤ bound) (hc : c.isDigit = false) :
    digitsUpTo? bound (padded width n ++ c :: rest) = some (n, c :: rest) := by
  have hstop : ∀ c' ∈ (c :: rest).head?, c'.isDigit = false := by
    rintro c' ⟨⟩
    exact hc
  have hdigits : ∀ c ∈ padded width n, c.isDigit := fun _ => Number.isDigit_of_mem_padded
  rw [digitsUpTo?_append Number.padded_ne_nil hdigits hbound (.inr hstop), Number.ofDigits_padded]

/-- A number begins with a digit. -/
lemma padded_eq_cons (width n : Nat) : ∃ c cs, padded width n = c :: cs ∧ c.isDigit := by
  have hne : padded width n ≠ [] := Number.padded_ne_nil
  obtain ⟨c, cs, h⟩ := List.exists_cons_of_ne_nil hne
  exact ⟨c, cs, h, Number.isDigit_of_mem_padded (h ▸ List.mem_cons_self)⟩

lemma skipBlanks_cons (h : Text.isBlank c = false) : skipBlanks (c :: rest) = c :: rest :=
  List.dropWhile_cons_of_neg (by rw [h]; decide)

lemma skipBlanks_padded : skipBlanks (padded width n ++ rest) = padded width n ++ rest := by
  obtain ⟨c, cs, h, hc⟩ := padded_eq_cons width n
  rw [h]
  exact skipBlanks_cons (Text.isBlank_of_isDigit hc)

/-! ### The parts of an instant -/

/-- A year without sign is what does not begin with one. -/
lemma year?_of_isDigit (h : c.isDigit) :
    year? (c :: rest) = (digitsUpTo? 4 (c :: rest)).map fun (n, rest) => ((n : Int), rest) := by
  rw [year?, skipBlanks_cons (Text.isBlank_of_isDigit h)]
  split
  next heq =>
    obtain rfl : c = '-' := (List.cons.inj heq).1
    exact absurd h (by decide)
  next heq =>
    obtain rfl : c = '+' := (List.cons.inj heq).1
    exact absurd h (by decide)
  next => rfl

/-- A year is read up to the separator after it. -/
lemma year?_yearText (year : Int) :
    year? (yearText year ++ '-' :: rest) = some (year, '-' :: rest) := by
  -- After a sign all digits up to the separator are read, however many there are.
  have hsigned : digitsUpTo? (padded 4 year.natAbs ++ '-' :: rest).length
      (padded 4 year.natAbs ++ '-' :: rest) = some (year.natAbs, '-' :: rest) :=
    digitsUpTo?_padded_cons (by simp) (by decide)
  rw [yearText]
  split
  next hneg =>
    have hvalue : -(year.natAbs : Int) = year := by omega
    rw [List.cons_append, year?, skipBlanks_cons (by decide)]
    simp only [hsigned, Option.map_some, hvalue]
  next hnonneg =>
    have hvalue : (year.natAbs : Int) = year := by omega
    split
    next hlarge =>
      rw [List.cons_append, year?, skipBlanks_cons (by decide)]
      simp only [hsigned, Option.map_some, hvalue]
    next hsmall =>
      have hlt : year.natAbs < 10000 := by omega
      have hplain : digitsUpTo? 4 (padded 4 year.natAbs ++ '-' :: rest) =
          some (year.natAbs, '-' :: rest) := digitsUpTo?_padded (by decide) hlt
      obtain ⟨c, cs, hcons, hc⟩ := padded_eq_cons 4 year.natAbs
      rw [hcons, List.cons_append] at hplain ⊢
      rw [year?_of_isDigit hc, hplain]
      simp only [Option.map_some, hvalue]

lemma twoDigits?_padded (h : n < 100) : twoDigits? (padded 2 n ++ rest) = some (n, rest) := by
  rw [twoDigits?, skipBlanks_padded]
  exact digitsUpTo?_padded (by decide) h

lemma separator?_cons (h : Text.isBlank c = false) : separator? c (c :: rest) = some rest := by
  rw [separator?, skipBlanks_cons h]
  exact if_pos rfl

lemma dateEnd?_cons : dateEnd? ('T' :: rest) = some rest := rfl

/-- A fraction of so many digits is read as nanoseconds. -/
lemma nanos?_point (hwidth : 0 < width) (hwidth' : width ≤ 9) (h : n < Nat.pow 10 width) :
    nanos? ('.' :: (padded width n ++ 'Z' :: rest)) =
      some (n * Nat.pow 10 (9 - width), 'Z' :: rest) := by
  have hlength := Number.length_padded hwidth h
  have hread : digitsUpTo? 9 (padded width n ++ 'Z' :: rest) = some (n, 'Z' :: rest) :=
    digitsUpTo?_padded_cons (by omega) (by decide)
  have htaken : (padded width n ++ 'Z' :: rest).length - ('Z' :: rest).length = width := by
    rw [List.length_append, hlength, Nat.add_sub_cancel_right]
  rw [nanos?, hread]
  simp only [Option.map_some, htaken]
  rfl

/-- The digits of a second are read as the nanoseconds that they stand for. -/
lemma nanos?_fractionText (h : nano < nanosPerSecond) :
    nanos? (fractionText nano ++ 'Z' :: rest) = some (nano, 'Z' :: rest) := by
  have hnano : nano < 1000000000 := h
  rw [fractionText]
  split
  next hzero => rw [hzero]; rfl
  next =>
    split
    next hmillis =>
      have hlt : nano / 1000000 < 1000 := by omega
      have hvalue : nano / 1000000 * Nat.pow 10 6 = nano :=
        Nat.div_mul_cancel (Nat.dvd_of_mod_eq_zero hmillis)
      rw [List.cons_append, nanos?_point (by decide) (by decide) hlt, hvalue]
    next =>
      split
      next hmicros =>
        have hlt : nano / 1000 < 1000000 := by omega
        have hvalue : nano / 1000 * Nat.pow 10 3 = nano :=
          Nat.div_mul_cancel (Nat.dvd_of_mod_eq_zero hmicros)
        rw [List.cons_append, nanos?_point (by decide) (by decide) hlt, hvalue]
      next =>
        have hvalue : nano * Nat.pow 10 0 = nano := Nat.mul_one nano
        rw [List.cons_append, nanos?_point (by decide) (by decide) hnano, hvalue]

/-! ### Instants -/

namespace Instant

variable {t : Instant}

lemma ofParts?_self (t : Instant) : ofParts? t.second t.nano = some t :=
  dif_pos t.valid

/-- The year of an instant is one of the calendar in use. -/
lemma year_bounds (t : Instant) : firstYear ≤ yearOfDay (t.second / secondsPerDay) ∧
    yearOfDay (t.second / secondsPerDay) ≤ lastYear := by
  obtain ⟨hfirst, hlast⟩ := t.valid.1
  have hday : (0 : Int) < secondsPerDay := by decide
  refine yearOfDay_bounds ?_ ?_
  · exact (Int.le_ediv_iff_mul_le hday).mpr hfirst
  · exact Int.ediv_lt_of_lt_mul hday hlast

/-- A second of a minute and nanoseconds, as they are written, give themselves back: only second 59
is written as 60, in a leap second. -/
lemma written_spec {second nano : Nat} (hsecond : second < 60)
    (hnano : nano < nanosPerSecond ∨ (nano < 2 * nanosPerSecond ∧ second = 59)) :
    let written := second + if nanosPerSecond ≤ nano then 1 else 0
    written ≤ 60 ∧ min written 59 = second ∧
      nano % nanosPerSecond + (if written = 60 then nanosPerSecond else 0) = nano := by
  intro written
  by_cases hleap : nanosPerSecond ≤ nano
  · obtain ⟨hnano, rfl⟩ : nano < 2 * nanosPerSecond ∧ second = 59 := hnano.resolve_left (by omega)
    have hwritten : written = 60 := by simp only [written, if_pos hleap]
    have hmod : nano % nanosPerSecond = nano - nanosPerSecond := by
      rw [Nat.mod_eq_sub_mod hleap, Nat.mod_eq_of_lt (by omega)]
    rw [if_pos hwritten, hwritten, hmod, Nat.sub_add_cancel hleap]
    exact ⟨Nat.le_refl 60, rfl, rfl⟩
  · have hwritten : written = second := by simp only [written, if_neg hleap, Nat.add_zero]
    rw [if_neg (by omega), hwritten, Nat.mod_eq_of_lt (Nat.not_le.mp hleap)]
    exact ⟨Nat.le_of_lt hsecond, Nat.min_eq_left (by omega), rfl⟩

/-- Day and time of day of an instant. -/
lemma exists_time (t : Instant) : ∃ time, (t.second % secondsPerDay).toNat = time ∧
    time < secondsPerDay ∧ t.second / secondsPerDay * secondsPerDay + time = t.second ∧
    (t.nano < nanosPerSecond ∨ (t.nano < 2 * nanosPerSecond ∧ time % 60 = 59)) := by
  have hday : secondsPerDay = 86400 := rfl
  have hnano := t.valid.2
  rw [hday]
  refine ⟨_, rfl, by omega, by omega, hnano.imp_right fun h => ⟨h.1, by omega⟩⟩

/-- Every instant is read from its own text. -/
theorem ofText?_toText (t : Instant) : ofText? t.toText = some t := by
  have hvalid := Date.isValid_ofDay (t.second / secondsPerDay)
  obtain ⟨time, htime, hlt, hsum, hleap⟩ := exists_time t
  obtain ⟨hsecond, hmin, hnano⟩ := written_spec (Nat.mod_lt time (by decide)) hleap
  obtain ⟨hfirst, hlast⟩ := year_bounds t
  have hday : secondsPerDay = 86400 := rfl
  have hminus : Text.isBlank '-' = false := by decide
  have hcolon : Text.isBlank ':' = false := by decide
  have hhour : time / 3600 < 100 := by omega
  have hminute : time / 60 % 60 < 100 := by omega
  have hsecond' : (time % 60 + if nanosPerSecond ≤ t.nano then 1 else 0) < 100 := by omega
  have hfraction : t.nano % nanosPerSecond < nanosPerSecond := Nat.mod_lt _ (by decide)
  have hzone : offset? (skipBlanks ['Z']) = some (0, []) := rfl
  have hclock : time / 3600 * 3600 + time / 60 % 60 * 60 + time % 60 = time := by omega
  rw [ofText?, toText, String.toList_ofList, toChars, htime, ofChars?]
  simp only [List.append_assoc, List.cons_append]
  -- Each part is read where it stands, up to the separator after it.
  refine Option.bind_eq_some_iff.mpr ⟨_, year?_yearText _, ?_⟩
  refine Option.bind_eq_some_iff.mpr ⟨_, separator?_cons hminus, ?_⟩
  refine Option.bind_eq_some_iff.mpr ⟨_, twoDigits?_padded hvalid.month_lt, ?_⟩
  refine Option.bind_eq_some_iff.mpr ⟨_, separator?_cons hminus, ?_⟩
  refine Option.bind_eq_some_iff.mpr ⟨_, twoDigits?_padded hvalid.day_lt, ?_⟩
  refine Option.bind_eq_some_iff.mpr ⟨_, dateEnd?_cons, ?_⟩
  refine Option.bind_eq_some_iff.mpr ⟨_, twoDigits?_padded hhour, ?_⟩
  refine Option.bind_eq_some_iff.mpr ⟨_, separator?_cons hcolon, ?_⟩
  refine Option.bind_eq_some_iff.mpr ⟨_, twoDigits?_padded hminute, ?_⟩
  refine Option.bind_eq_some_iff.mpr ⟨_, separator?_cons hcolon, ?_⟩
  refine Option.bind_eq_some_iff.mpr ⟨_, twoDigits?_padded hsecond', ?_⟩
  refine Option.bind_eq_some_iff.mpr ⟨_, nanos?_fractionText hfraction, ?_⟩
  refine Option.bind_eq_some_iff.mpr ⟨_, hzone, ?_⟩
  simp only
  rw [if_pos ⟨rfl, hfirst, hlast, hvalid, by omega, by omega, hsecond⟩, hmin, hnano, hclock,
    Date.toDay_ofDay, hsum, Int.sub_zero, ofParts?_self]

end Instant

end SensorRules.Time
