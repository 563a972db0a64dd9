import Mathlib.Tactic.Lemma
import SensorRules.Proofs.Traversal
import SensorRules.Time.Clock

/-!
The circle of the day, and what clocks at different offsets show.

* `ClockTime.nanos`: the nanoseconds since midnight, which tell the order of times of day;
* `ClockTime.isBetween_iff`: the way from one time to another is an arc of the circle of the day;
* `ClockTime.exists_of_read`: times that are read are whole minutes;
* `Instant.nanosAt`: the nanoseconds that a clock has counted; `WallClock.nanos_ofInstant`: the time
  of day on it is what is left of them after the last midnight;
* `Instant.Shifts`: an instant that is so many seconds later on every clock, and what clocks show
  then.
-/

namespace SensorRules.Time

open Traversal (bind_eq_ok_iff)

/-- The nanoseconds of a day. -/
def nanosPerDay : Int := secondsPerDay * nanosPerSecond

/-! ### The circle of the day -/

namespace ClockTime

variable {time start stop : ClockTime}

/-- The nanoseconds since midnight. -/
def nanos (time : ClockTime) : Int :=
  time.second * nanosPerSecond + time.nano

/-- A time of the day outside a leap second. -/
structure InDay (time : ClockTime) : Prop where
  second_lt : time.second < secondsPerDay
  nano_lt : time.nano < nanosPerSecond

lemma nanos_nonneg (time : ClockTime) : 0 ≤ time.nanos := by
  have hsecond : 0 ≤ (time.second * nanosPerSecond : Int) :=
    Int.mul_nonneg (Int.natCast_nonneg _) (Int.natCast_nonneg _)
  rw [nanos]
  omega

lemma InDay.nanos_lt (h : time.InDay) : time.nanos < nanosPerDay := by
  obtain ⟨hsecond, hnano⟩ := h
  simp only [nanos, nanosPerDay, secondsPerDay, nanosPerSecond] at hsecond hnano ⊢
  omega

lemma lt_iff (htime : time.InDay) (hstop : stop.InDay) :
    time.lt stop = true ↔ time.nanos < stop.nanos := by
  have hnano := htime.nano_lt
  have hnano' := hstop.nano_lt
  simp only [lt, Bool.or_eq_true, Bool.and_eq_true, decide_eq_true_eq, beq_iff_eq]
  simp only [nanos, nanosPerSecond] at hnano hnano' ⊢
  omega

lemma le_iff (hstart : start.InDay) (htime : time.InDay) :
    start.le time = true ↔ start.nanos ≤ time.nanos := by
  rw [le, Bool.not_eq_true', ← Bool.not_eq_true, lt_iff htime hstart, Int.not_lt]

lemma eq_of_nanos_eq (htime : time.InDay) (hstop : stop.InDay) (h : time.nanos = stop.nanos) :
    time = stop := by
  obtain ⟨second, nano⟩ := time
  obtain ⟨second', nano'⟩ := stop
  have hnano := htime.nano_lt
  have hnano' := hstop.nano_lt
  simp only [nanos, nanosPerSecond] at h hnano hnano'
  rw [ClockTime.mk.injEq]
  omega

/-- On a circle, what lies ahead of `x` seen from `a` is counted from `a` on, past the end of the
circle if it lies behind. -/
lemma emod_sub_lt_iff {x a b n : Int} (hx : 0 ≤ x ∧ x < n) (ha : 0 ≤ a ∧ a < n)
    (hb : 0 ≤ b ∧ b < n) :
    (x - a) % n < (b - a) % n ↔ if a ≤ b then a ≤ x ∧ x < b else a ≤ x ∨ x < b := by
  have hahead {y : Int} (hy : 0 ≤ y ∧ y < n) (h : a ≤ y) : (y - a) % n = y - a :=
    Int.emod_eq_of_lt (by omega) (by omega)
  have hbehind {y : Int} (hy : 0 ≤ y ∧ y < n) (h : y < a) : (y - a) % n = y - a + n := by
    rw [← Int.add_emod_right]
    exact Int.emod_eq_of_lt (by omega) (by omega)
  by_cases hax : a ≤ x <;> by_cases hab : a ≤ b
  · rw [hahead hx hax, hahead hb hab, if_pos hab]
    omega
  · rw [hahead hx hax, hbehind hb (by omega), if_neg hab]
    omega
  · rw [hbehind hx (by omega), hahead hb hab, if_pos hab]
    omega
  · rw [hbehind hx (by omega), hbehind hb (by omega), if_neg hab]
    omega

/-- The nanoseconds tell whether a time lies on the way from one time to another. -/
lemma isBetween_iff_nanos (htime : time.InDay) (hstart : start.InDay) (hstop : stop.InDay) :
    time.isBetween start stop = true ↔
      if start.nanos ≤ stop.nanos then start.nanos ≤ time.nanos ∧ time.nanos < stop.nanos
      else start.nanos ≤ time.nanos ∨ time.nanos < stop.nanos := by
  rw [isBetween]
  simp only [← le_iff hstart hstop, ← le_iff hstart htime, ← lt_iff htime hstop]
  split <;> simp

/-- **The circle of the day.** The time lies on the half-open arc that runs forward from `start` to
`stop`: from `start` it is not so far ahead as `stop` is. -/
theorem isBetween_iff (htime : time.InDay) (hstart : start.InDay) (hstop : stop.InDay) :
    time.isBetween start stop = true ↔
      (time.nanos - start.nanos) % nanosPerDay < (stop.nanos - start.nanos) % nanosPerDay := by
  have hbounds {t : ClockTime} (h : t.InDay) : 0 ≤ t.nanos ∧ t.nanos < nanosPerDay :=
    ⟨nanos_nonneg t, h.nanos_lt⟩
  rw [isBetween_iff_nanos htime hstart hstop,
    emod_sub_lt_iff (hbounds htime) (hbounds hstart) (hbounds hstop)]

/-- The way from one time to another and the way back make up the whole circle, if the two times are
different. -/
lemma isBetween_comm (htime : time.InDay) (hstart : start.InDay) (hstop : stop.InDay)
    (hne : start ≠ stop) : time.isBetween stop start = !time.isBetween start stop := by
  have hnanos : start.nanos ≠ stop.nanos := mt (eq_of_nanos_eq hstart hstop) hne
  rw [Bool.eq_not, ne_eq, Bool.eq_iff_iff, isBetween_iff_nanos htime hstart hstop,
    isBetween_iff_nanos htime hstop hstart]
  split <;> split <;> omega

/-- There is no way from a time to itself. -/
lemma isBetween_self (htime : time.InDay) (hstart : start.InDay) :
    time.isBetween start start = false := by
  rw [← Bool.not_eq_true, isBetween_iff htime hstart hstart, Int.not_lt, Int.sub_self]
  exact Int.emod_nonneg _ (by decide)

/-! ### Times that are read -/

lemma lt_of_readNumber {bound n : Nat} {cs rest : List Char}
    (h : readNumber bound cs = .ok (n, rest)) : n < bound := by
  simp only [readNumber] at h
  split at h
  next => cases h
  next => cases h
  next =>
    split at h
    next hlt => cases h; exact hlt
    next => cases h

/-- Times that are read are whole minutes. -/
lemma exists_of_read {s : String} (h : read s = .ok time) :
    ∃ hour minute, hour < 24 ∧ minute < 60 ∧ time = ofHourMinute hour minute := by
  rw [read] at h
  obtain ⟨⟨hour, rest⟩, hhour, h⟩ := bind_eq_ok_iff.mp h
  obtain ⟨rest, -, h⟩ := bind_eq_ok_iff.mp h
  obtain ⟨⟨minute, rest⟩, hminute, h⟩ := bind_eq_ok_iff.mp h
  refine ⟨hour, minute, lt_of_readNumber hhour, lt_of_readNumber hminute, ?_⟩
  simp only at h
  by_cases hrest : rest = []
  · rw [if_pos hrest] at h
    exact (Except.ok.inj h).symm
  · rw [if_neg hrest] at h
    cases h

lemma nano_of_read {s : String} (h : read s = .ok time) : time.nano = 0 := by
  obtain ⟨hour, minute, -, -, rfl⟩ := exists_of_read h
  rfl

lemma inDay_of_read {s : String} (h : read s = .ok time) : time.InDay := by
  obtain ⟨hour, minute, hhour, hminute, rfl⟩ := exists_of_read h
  refine ⟨?_, Nat.zero_lt_succ _⟩
  simp only [ofHourMinute, secondsPerDay]
  omega

/-- Whole minutes are compared with the seconds of a time only. -/
lemma isBetween_congr {time' : ClockTime} (hstart : start.nano = 0) (hstop : stop.nano = 0)
    (hsecond : time.second = time'.second) :
    time.isBetween start stop = time'.isBetween start stop := by
  simp only [isBetween, le, lt, hstart, hstop, hsecond, Nat.not_lt_zero, decide_false,
    Bool.and_false, Bool.or_false]

end ClockTime

/-! ### What clocks show -/

/-- The nanoseconds that a clock at an offset has counted since the beginning of 1970. -/
def Instant.nanosAt (t : Instant) (offset : Int) : Int :=
  (t.second + offset) * nanosPerSecond + t.nano

/-- The second instant is so many seconds later on every clock. An instant in a leap second may stand
for the one in the second that it lengthens. -/
structure Instant.Shifts (t : Instant) (seconds : Int) (t' : Instant) : Prop where
  second : t'.second = t.second + seconds
  nano : t'.nano % nanosPerSecond = t.nano % nanosPerSecond

/-- There is such an instant unless the calendar ends before. -/
lemma Instant.exists_shifts (t : Instant) {seconds : Int}
    (hfirst : yearStart firstYear * secondsPerDay ≤ t.second + seconds)
    (hlast : t.second + seconds < yearStart (lastYear + 1) * secondsPerDay) :
    ∃ t', t.Shifts seconds t' :=
  ⟨⟨t.second + seconds, t.nano % nanosPerSecond,
    ⟨hfirst, hlast⟩, .inl (Nat.mod_lt _ (by decide))⟩, rfl, Nat.mod_mod _ _⟩

namespace WallClock

variable {now moved : Instant} {seconds : Int}

/-- Outside leap seconds a clock shows a time of the day. -/
lemma inDay_ofInstant (h : ¬ now.InLeapSecond) (offset : Int) :
    (ofInstant now offset).time.InDay := by
  refine ⟨?_, Nat.not_le.mp h⟩
  simp only [ofInstant, secondsPerDay]
  omega

/-- The time of day is what a clock has counted after the last midnight. -/
lemma nanos_ofInstant (h : ¬ now.InLeapSecond) (offset : Int) :
    (ofInstant now offset).time.nanos = now.nanosAt offset % nanosPerDay := by
  have hnano : now.nano < nanosPerSecond := Nat.not_le.mp h
  simp only [ofInstant, ClockTime.nanos, Instant.nanosAt, nanosPerDay, secondsPerDay,
    nanosPerSecond] at hnano ⊢
  omega

/-- The clocks show the same second of the day, and the same day of the week. -/
structure Agree (clock clock' : WallClock) : Prop where
  second : clock.time.second = clock'.time.second
  weekday : clock.day % 7 = clock'.day % 7

variable {clock clock' : WallClock}

lemma Agree.hour (h : clock.Agree clock') : clock.hour = clock'.hour := by
  rw [WallClock.hour, WallClock.hour, h.second]

lemma Agree.isWeekend (h : clock.Agree clock') : clock.isWeekend = clock'.isWeekend := by
  have hweekday := h.weekday
  simp only [WallClock.isWeekend, Time.isWeekend, decide_eq_decide]
  omega

/-- A clock at an offset shows what a clock in UTC shows so many seconds later. -/
lemma agree_of_shifts_offset {offset : Int} (h : now.Shifts offset moved) :
    (ofInstant now offset).Agree (ofInstant moved 0) := by
  constructor <;> simp only [ofInstant, h.second, Int.add_zero]

/-- Whole days later a clock shows the same second. -/
lemma second_of_shifts_days {days : Int} (offset : Int)
    (h : now.Shifts (days * secondsPerDay) moved) :
    (ofInstant now offset).time.second = (ofInstant moved offset).time.second := by
  simp only [ofInstant, h.second, secondsPerDay]
  omega

/-- Whole weeks later it also shows the same day of the week. -/
lemma agree_of_shifts_weeks {weeks : Int} (offset : Int)
    (h : now.Shifts (weeks * (7 * secondsPerDay)) moved) :
    (ofInstant now offset).Agree (ofInstant moved offset) := by
  constructor <;> simp only [ofInstant, h.second, secondsPerDay] <;> omega

end WallClock

end SensorRules.Time
