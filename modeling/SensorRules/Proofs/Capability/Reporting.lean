import SensorRules.Proofs.Capability.Asking
import SensorRules.Proofs.Number.Whole
import SensorRules.Proofs.Time.Clock
import SensorRules.Proofs.Time.Order

/-!
How long ago a sensor has reported, as `isUpdatedWithin` tells it.

* `askUpdatedWithin`: the question to a sensor, with a number of seconds;
* `WritesSeconds`: the arguments that are such numbers;
* `askUpdatedWithin_eq_ok`, `askUpdatedWithin_eq_notSeconds`, `askUpdatedWithin_eq_neverUpdated`:
  the three ways in which the question ends;
* `askUpdatedWithin_of_le`, `askUpdatedWithin_of_later`: what is within a time is within a longer
  one, and what is no longer within it stays so;
* `askUpdatedWithin_exact`: the answer by the exact time since the last report, and what becomes of
  it with other numbers and at later instants.
-/

namespace SensorRules

open Capability
open Time (Instant nanosPerSecond)

variable {ctx : Context} {s : Sensor} {arg : String} {seconds : Int} {last : Instant}

/-- What the capabilities that every house has answer if a sensor is asked whether it was updated
within a time. -/
def askUpdatedWithin (ctx : Context) (s : Sensor) (arg : String) : Except Capability.Error Bool :=
  Registry.standard.askSensor "isUpdatedWithin" ctx s [arg]

/-- An argument that is a number of seconds: digits of ASCII with an optional sign, for a number of
64 bits. -/
def WritesSeconds (arg : String) (seconds : Int) : Prop :=
  Number.Signed arg.toList seconds ∧
    -9223372036854775808 ≤ seconds ∧ seconds < 9223372036854775808

lemma signed?_eq_some_iff_writesSeconds :
    Number.signed? (Number.word64 / 2) arg = some seconds ↔ WritesSeconds arg seconds :=
  Number.signed?_eq_some_iff

/-! ### The question -/

lemma accepts_isUpdatedWithin : isUpdatedWithin.arity.Accepts [arg].length :=
  ⟨Nat.le_refl 1, fun _ hm => Nat.le_of_eq (Option.some.inj hm)⟩

lemma askUpdatedWithin_eq : askUpdatedWithin ctx s arg =
    match Number.signed? (Number.word64 / 2) arg, s.lastUpdated with
    | none, _ => .error (.failed "isUpdatedWithin" (.notSeconds arg))
    | some _, none => .error (.failed "isUpdatedWithin" (.neverUpdated s.name))
    | some seconds, some last => .ok (decide (ctx.now.secondsSince last ≤ seconds)) := by
  have hmem : ⟨.sensor, "isUpdatedWithin", isUpdatedWithin, Body.isUpdatedWithin⟩ ∈ builtIns := by
    simp [builtIns]
  exact ask_of_accepts (Registry.getElem?_table_standard hmem) accepts_isUpdatedWithin

lemma askUpdatedWithin_eq_notSeconds (h : ∀ seconds, ¬ WritesSeconds arg seconds) :
    askUpdatedWithin ctx s arg = .error (.failed "isUpdatedWithin" (.notSeconds arg)) := by
  have hread : Number.signed? (Number.word64 / 2) arg = none :=
    Option.eq_none_iff_forall_ne_some.mpr fun seconds hsome =>
      h seconds (signed?_eq_some_iff_writesSeconds.mp hsome)
  rw [askUpdatedWithin_eq, hread]

lemma askUpdatedWithin_eq_neverUpdated (h : WritesSeconds arg seconds)
    (hlast : s.lastUpdated = none) :
    askUpdatedWithin ctx s arg = .error (.failed "isUpdatedWithin" (.neverUpdated s.name)) := by
  rw [askUpdatedWithin_eq, signed?_eq_some_iff_writesSeconds.mpr h, hlast]

lemma askUpdatedWithin_eq_ok (h : WritesSeconds arg seconds) (hlast : s.lastUpdated = some last) :
    askUpdatedWithin ctx s arg = .ok (decide (ctx.now.secondsSince last ≤ seconds)) := by
  rw [askUpdatedWithin_eq, signed?_eq_some_iff_writesSeconds.mpr h, hlast]

/-- An answer is only given to a number of seconds, at a sensor that has reported. -/
lemma exists_of_askUpdatedWithin {answer : Bool} (h : askUpdatedWithin ctx s arg = .ok answer) :
    ∃ seconds last, WritesSeconds arg seconds ∧ s.lastUpdated = some last ∧
      answer = decide (ctx.now.secondsSince last ≤ seconds) := by
  by_cases hwrites : ∃ seconds, WritesSeconds arg seconds
  · obtain ⟨seconds, hseconds⟩ := hwrites
    cases hlast : s.lastUpdated with
    | none =>
        rw [askUpdatedWithin_eq_neverUpdated hseconds hlast] at h
        cases h
    | some last =>
        rw [askUpdatedWithin_eq_ok hseconds hlast] at h
        exact ⟨seconds, last, hseconds, rfl, (Except.ok.inj h).symm⟩
  · rw [askUpdatedWithin_eq_notSeconds (not_exists.mp hwrites)] at h
    cases h

/-! ### More seconds, and later instants -/

/-- What is within some seconds is within more of them. -/
lemma askUpdatedWithin_of_le {arg' : String} {more : Int} (h : WritesSeconds arg seconds)
    (h' : WritesSeconds arg' more) (hle : seconds ≤ more)
    (htrue : askUpdatedWithin ctx s arg = .ok true) : askUpdatedWithin ctx s arg' = .ok true := by
  obtain ⟨seconds', last, hseconds, hlast, -⟩ := exists_of_askUpdatedWithin htrue
  rw [askUpdatedWithin_eq_ok h hlast] at htrue
  have hyes : ctx.now.secondsSince last ≤ seconds := of_decide_eq_true (Except.ok.inj htrue)
  rw [askUpdatedWithin_eq_ok h' hlast, decide_eq_true (Int.le_trans hyes hle)]

/-- Outside leap seconds, what is not within some seconds is not within them later. -/
lemma askUpdatedWithin_of_later {later : Context}
    (hleap : ∀ last ∈ s.lastUpdated, ¬ last.InLeapSecond) (hnow : ¬ ctx.now.InLeapSecond)
    (hlater : ¬ later.now.InLeapSecond) (hle : ctx.now ≤ later.now)
    (hfalse : askUpdatedWithin ctx s arg = .ok false) :
    askUpdatedWithin later s arg = .ok false := by
  obtain ⟨seconds, last, hseconds, hlast, hdecide⟩ := exists_of_askUpdatedWithin hfalse
  have hmore : ctx.now.secondsSince last ≤ later.now.secondsSince last :=
    Instant.secondsSince_mono (hleap last hlast) hnow hlater hle
  have hno : ¬ ctx.now.secondsSince last ≤ seconds := of_decide_eq_false hdecide.symm
  rw [askUpdatedWithin_eq_ok hseconds hlast,
    decide_eq_false fun hyes => hno (Int.le_trans hmore hyes)]

/-! ### The time since the last report -/

/-- Outside leap seconds, the time between two instants is the difference of what the clock of UTC
has counted. -/
lemma nanosSince_eq_sub {now : Instant} (hnow : ¬ now.InLeapSecond) (hlast : ¬ last.InLeapSecond) :
    now.nanosSince last = now.nanosAt 0 - last.nanosAt 0 := by
  rw [Instant.nanosSince_of_not_inLeapSecond hlast hnow, Instant.nanosAt, Instant.nanosAt]
  simp only [nanosPerSecond]
  omega

/-- **Updated within a time.** Let the argument be a number of seconds and the sensor have reported,
both instants outside leap seconds. Then there is an answer, which is `true` just if the exact time
since the last report is less than one second more than these, or no more than these if the number
is negative. It stays `true` for more seconds, and stays `false` as time goes on. If the argument is
no number of seconds, or if the sensor has not reported, then there is no answer. -/
theorem askUpdatedWithin_exact (s : Sensor) (arg : String) :
    (∀ ctx seconds last, WritesSeconds arg seconds → s.lastUpdated = some last →
      ¬ ctx.now.InLeapSecond → ¬ last.InLeapSecond →
        ∃ answer, askUpdatedWithin ctx s arg = .ok answer ∧
          (0 ≤ seconds → (answer = true ↔
            ctx.now.nanosAt 0 - last.nanosAt 0 < (seconds + 1) * nanosPerSecond)) ∧
          (seconds < 0 → (answer = true ↔
            ctx.now.nanosAt 0 - last.nanosAt 0 ≤ seconds * nanosPerSecond))) ∧
    (∀ ctx arg' seconds more, WritesSeconds arg seconds → WritesSeconds arg' more →
      seconds ≤ more → askUpdatedWithin ctx s arg = .ok true →
        askUpdatedWithin ctx s arg' = .ok true) ∧
    (∀ ctx later, (∀ last ∈ s.lastUpdated, ¬ last.InLeapSecond) → ¬ ctx.now.InLeapSecond →
      ¬ later.now.InLeapSecond → ctx.now ≤ later.now → askUpdatedWithin ctx s arg = .ok false →
        askUpdatedWithin later s arg = .ok false) ∧
    (∀ ctx, (∀ seconds, ¬ WritesSeconds arg seconds) →
      askUpdatedWithin ctx s arg = .error (.failed "isUpdatedWithin" (.notSeconds arg))) ∧
    ∀ ctx seconds, WritesSeconds arg seconds → s.lastUpdated = none →
      askUpdatedWithin ctx s arg = .error (.failed "isUpdatedWithin" (.neverUpdated s.name)) := by
  refine ⟨fun ctx seconds last h hlast hnow hleap => ?_,
    fun ctx arg' seconds more => askUpdatedWithin_of_le,
    fun ctx later => askUpdatedWithin_of_later, fun ctx => askUpdatedWithin_eq_notSeconds,
    fun ctx seconds => askUpdatedWithin_eq_neverUpdated⟩
  refine ⟨_, askUpdatedWithin_eq_ok h hlast, fun hnonneg => ?_, fun hneg => ?_⟩
  · rw [decide_eq_true_eq, Instant.secondsSince_le_iff, if_pos hnonneg,
      nanosSince_eq_sub hnow hleap]
  · rw [decide_eq_true_eq, Instant.secondsSince_le_iff, if_neg (Int.not_le.mpr hneg),
      nanosSince_eq_sub hnow hleap]

/-- A sensor that has reported at the beginning of 1970 was updated within a minute up to the last
nanosecond of the minute after it. To have been updated within less than no time, it would have to
report in the future. -/
theorem askUpdatedWithin_exact_minute :
    let hours : WorkingHours := ⟨9, 17⟩
    let door : Sensor := { Sensor.named "Door" with lastUpdated := some Instant.epoch }
    let early : Context := ⟨⟨60, 999999999, by decide⟩, 0, hours⟩
    let late : Context := ⟨⟨61, 0, by decide⟩, 0, hours⟩
    askUpdatedWithin early door "+60" = .ok true ∧ askUpdatedWithin late door "+60" = .ok false ∧
    askUpdatedWithin early door "61" = .ok true ∧ askUpdatedWithin late door "-1" = .ok false ∧
    askUpdatedWithin late door "soon" = .error (.failed "isUpdatedWithin" (.notSeconds "soon")) ∧
    askUpdatedWithin late (.named "Door") "+60" =
      .error (.failed "isUpdatedWithin" (.neverUpdated "Door")) := by
  intro hours door early late
  have hsixty : WritesSeconds "+60" 60 := signed?_eq_some_iff_writesSeconds.mp (by decide +kernel)
  have hmore : WritesSeconds "61" 61 := signed?_eq_some_iff_writesSeconds.mp (by decide +kernel)
  have hminus : WritesSeconds "-1" (-1) := signed?_eq_some_iff_writesSeconds.mp (by decide +kernel)
  have hsoon : ∀ seconds, ¬ WritesSeconds "soon" seconds := by
    intro seconds h
    have hnone : Number.signed? (Number.word64 / 2) "soon" = none := by decide +kernel
    cases hnone.symm.trans (signed?_eq_some_iff_writesSeconds.mpr h)
  have hleap : ∀ last ∈ door.lastUpdated, ¬ last.InLeapSecond := by
    rintro last ⟨⟩
    decide
  -- The two sides of the boundary of a positive number.
  obtain ⟨inside, hinside, hiff, -⟩ := (askUpdatedWithin_exact door "+60").1 early 60 .epoch
    hsixty rfl (by decide) (by decide)
  obtain rfl : inside = true := (hiff (by decide)).mpr (by decide)
  obtain ⟨outside, houtside, hiff', -⟩ := (askUpdatedWithin_exact door "+60").1 late 60 .epoch
    hsixty rfl (by decide) (by decide)
  obtain rfl : outside = false :=
    Bool.eq_false_iff.mpr fun h => absurd ((hiff' (by decide)).mp h) (by decide)
  -- A negative number.
  obtain ⟨future, hfuture, -, hiff''⟩ := (askUpdatedWithin_exact door "-1").1 early (-1) .epoch
    hminus rfl (by decide) (by decide)
  obtain rfl : future = false :=
    Bool.eq_false_iff.mpr fun h => absurd ((hiff'' (by decide)).mp h) (by decide)
  refine ⟨hinside, houtside, ?_, ?_, ?_, ?_⟩
  · exact (askUpdatedWithin_exact door "+60").2.1 early "61" 60 61 hsixty hmore (by decide) hinside
  · exact (askUpdatedWithin_exact door "-1").2.2.1 early late hleap (by decide) (by decide)
      (by decide) hfuture
  · exact (askUpdatedWithin_exact door "soon").2.2.2.1 late hsoon
  · exact (askUpdatedWithin_exact (.named "Door") "+60").2.2.2.2 late 60 hsixty rfl

end SensorRules
