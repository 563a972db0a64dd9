import SensorRules.Proofs.Capability.Asking
import SensorRules.Proofs.Number.Whole
import SensorRules.Proofs.Time.Clock

/-!
Questions about the clock on the wall, put to the capabilities that every house has.

* `askClock`: a question at an instant and an offset;
* `WritesHour`: the arguments that are hours (`readHour_eq_ok_iff`);
* `askClock_isBetween`: `isBetween` answers whether the time of day lies on an arc of the circle of
  the day, or fails at the first argument that is no time;
* `askClock_regular`: the three questions depend on the clock of the offset only, which comes back
  to the same time after days and weeks; working hours are never on a weekend, and add up.
-/

namespace SensorRules

open Capability
open Time (Instant ClockTime WallClock nanosPerDay secondsPerDay)
open Traversal (bind_eq_ok_iff)

variable {ctx ctx' : Context} {name : String} {args : List String} {a b : String}
  {hours : WorkingHours} {now : Instant} {offset : Int}

/-- What the capabilities that every house has answer to a question about the house. -/
def askClock (hours : WorkingHours) (name : String) (args : List String) (now : Instant)
    (offset : Int) : Except Capability.Error Bool :=
  Registry.standard.askGeneral name ⟨now, offset, hours⟩ args

/-! ### The capabilities by their names -/

lemma general_isWorkingHours :
    Registry.standard.general["isWorkingHours"]? = some isWorkingHours := by
  have hmem : ⟨.general, "isWorkingHours", isWorkingHours, Body.isWorkingHours⟩ ∈ builtIns := by
    simp [builtIns]
  exact Registry.getElem?_table_standard hmem

lemma general_isWeekend : Registry.standard.general["isWeekend"]? = some isWeekend := by
  have hmem : ⟨.general, "isWeekend", isWeekend, Body.isWeekend⟩ ∈ builtIns := by
    simp [builtIns]
  exact Registry.getElem?_table_standard hmem

lemma general_isBetween : Registry.standard.general["isBetween"]? = some isBetween := by
  have hmem : ⟨.general, "isBetween", isBetween, Body.isBetween⟩ ∈ builtIns := by
    simp [builtIns]
  exact Registry.getElem?_table_standard hmem

/-- The same question has the same answer in two passes if the capability of the name does not tell
them apart. -/
lemma askGeneral_congr {r : Registry} {c : Capability Unit} (hc : r.general[name]? = some c)
    (h : ∀ args haccepts, c.run ctx () args haccepts = c.run ctx' () args haccepts) :
    r.askGeneral name ctx args = r.askGeneral name ctx' args := by
  rw [Registry.askGeneral, Registry.askGeneral, Capability.ask, Capability.ask]
  cases hdispatch : Capability.dispatch r.general name args with
  | error e => rfl
  | ok c' =>
      obtain rfl := Option.some.inj (hc.symm.trans (getElem?_of_dispatch hdispatch))
      exact h args c'.2

/-- An answer is that of the capability of the name, which takes so many arguments. -/
lemma run_of_askGeneral {r : Registry} {c : Capability Unit} {answer : Bool}
    (hc : r.general[name]? = some c) (h : r.askGeneral name ctx args = .ok answer) :
    ∃ haccepts, c.run ctx () args haccepts = .ok answer := by
  rw [Registry.askGeneral] at h
  by_cases haccepts : c.arity.Accepts args.length
  · refine ⟨haccepts, ?_⟩
    rwa [ask_of_accepts hc haccepts] at h
  · rw [ask_of_not_accepts hc haccepts] at h
    cases h

/-! ### Times of day -/

lemma readTime_eq (a : String) :
    readTime a = (ClockTime.read a).mapError fun e => .failed "isBetween" (.notATime a e) := by
  rw [readTime]
  cases ClockTime.read a <;> rfl

lemma nano_of_readTime {time : ClockTime} (h : readTime a = .ok time) : time.nano = 0 := by
  cases hread : ClockTime.read a with
  | error e =>
      rw [readTime_eq, hread] at h
      cases h
  | ok time' =>
      rw [readTime_eq, hread] at h
      obtain rfl := Except.ok.inj h
      exact ClockTime.nano_of_read hread

lemma askClock_isBetween_eq : askClock hours "isBetween" [a, b] now offset =
    do
      let start ← readTime a
      let stop ← readTime b
      return (WallClock.ofInstant now offset).time.isBetween start stop := by
  have haccepts : isBetween.arity.Accepts [a, b].length :=
    ⟨Nat.le_refl 2, fun m hm => Nat.le_of_eq (Option.some.inj hm)⟩
  exact ask_of_accepts general_isBetween haccepts

/-- **Between two times of day.** If both arguments are times and `now` is outside leap seconds, then
`isBetween` answers, with `true` just if the time of day on the clock, with its part of a second,
lies on the half-open arc that runs forward from the first time to the second on the circle of the
day. For different times, the answer to the question about the way back is the opposite one; for
equal times it is `false`. If an argument is no time, then the question fails at the first such
argument. -/
theorem askClock_isBetween (hours : WorkingHours) (now : Instant) (offset : Int) (a b : String) :
    (∀ start stop, ClockTime.read a = .ok start → ClockTime.read b = .ok stop →
      ¬ now.InLeapSecond →
      ∃ there back, askClock hours "isBetween" [a, b] now offset = .ok there ∧
        askClock hours "isBetween" [b, a] now offset = .ok back ∧
        (there = true ↔ (now.nanosAt offset - start.nanos) % nanosPerDay <
          (stop.nanos - start.nanos) % nanosPerDay) ∧
        (start ≠ stop → back = !there) ∧
        (start = stop → there = false ∧ back = false)) ∧
    (∀ e, ClockTime.read a = .error e → askClock hours "isBetween" [a, b] now offset =
      .error (.failed "isBetween" (.notATime a e))) ∧
    (∀ start e, ClockTime.read a = .ok start → ClockTime.read b = .error e →
      askClock hours "isBetween" [a, b] now offset =
        .error (.failed "isBetween" (.notATime b e))) := by
  refine ⟨fun start stop hstart hstop hleap => ?_, fun e he => ?_, fun start e hstart he => ?_⟩
  · have hday := ClockTime.inDay_of_read hstart
    have hday' := ClockTime.inDay_of_read hstop
    have htime := WallClock.inDay_ofInstant hleap offset
    refine ⟨_, _, ?_, ?_, ?_, fun hne => ClockTime.isBetween_comm htime hday hday' hne, ?_⟩
    · rw [askClock_isBetween_eq, readTime_eq, readTime_eq, hstart, hstop]
      rfl
    · rw [askClock_isBetween_eq, readTime_eq, readTime_eq, hstart, hstop]
      rfl
    · rw [ClockTime.isBetween_iff htime hday hday', WallClock.nanos_ofInstant hleap,
        Int.emod_sub_emod]
    · rintro rfl
      exact ⟨ClockTime.isBetween_self htime hday, ClockTime.isBetween_self htime hday⟩
  · rw [askClock_isBetween_eq, readTime_eq, he]
    rfl
  · rw [askClock_isBetween_eq, readTime_eq, readTime_eq, hstart, he]
    rfl

/-- A Friday, 16 October 2026, a quarter of a second after half past eleven at night in UTC. -/
def fridayNight : Instant :=
  ⟨1792193400, 250000000, by decide⟩

/-- Half an hour past midnight lies between ten at night and five past six. -/
theorem askClock_isBetween_night :
    ClockTime.read "22:00" = .ok (.ofHourMinute 22 0) ∧
    ClockTime.read " 6:05" = .ok (.ofHourMinute 6 5) ∧ ¬ fridayNight.InLeapSecond ∧
    ClockTime.read "24:00" = .error .outOfRange ∧
    askClock .standard "isBetween" ["22:00", " 6:05"] fridayNight 3600 = .ok true ∧
    askClock .standard "isBetween" [" 6:05", "22:00"] fridayNight 3600 = .ok false ∧
    askClock .standard "isBetween" ["24:00", "22:00"] fridayNight 3600 =
      .error (.failed "isBetween" (.notATime "24:00" .outOfRange)) ∧
    askClock .standard "isBetween" ["22:00", "24:00"] fridayNight 3600 =
      .error (.failed "isBetween" (.notATime "24:00" .outOfRange)) := by
  have hten : ClockTime.read "22:00" = .ok (.ofHourMinute 22 0) := by decide +kernel
  have hsix : ClockTime.read " 6:05" = .ok (.ofHourMinute 6 5) := by decide +kernel
  have hnone : ClockTime.read "24:00" = .error .outOfRange := by decide +kernel
  have hleap : ¬ fridayNight.InLeapSecond := Nat.not_le.mpr (by decide)
  obtain ⟨there, back, hthere, hback, harc, hopposite, -⟩ :=
    (askClock_isBetween .standard fridayNight 3600 "22:00" " 6:05").1 _ _ hten hsix hleap
  obtain rfl : there = true := harc.mpr (by decide)
  obtain rfl : back = false := hopposite (by decide)
  refine ⟨hten, hsix, hleap, hnone, hthere, hback, ?_, ?_⟩
  · exact (askClock_isBetween .standard fridayNight 3600 "24:00" "22:00").2.1 _ hnone
  · exact (askClock_isBetween .standard fridayNight 3600 "22:00" "24:00").2.2 _ _ hten hnone

/-! ### What the clock tells -/

/-- Seconds are all that counts between whole minutes. -/
lemma isBetween_run_congr (hsecond : ctx.clock.time.second = ctx'.clock.time.second)
    (args : List String) (haccepts : isBetween.arity.Accepts args.length) :
    isBetween.run ctx () args haccepts = isBetween.run ctx' () args haccepts := by
  have hlength : 2 ≤ args.length := haccepts.1
  simp only [isBetween]
  cases hstart : readTime args[0] with
  | error e => rfl
  | ok start =>
      cases hstop : readTime args[1] with
      | error e => rfl
      | ok stop =>
          have hsame : ctx.clock.time.isBetween start stop = ctx'.clock.time.isBetween start stop :=
            ClockTime.isBetween_congr (nano_of_readTime hstart) (nano_of_readTime hstop) hsecond
          exact congrArg Except.ok hsame

lemma isWorkTime_congr {clock clock' : WallClock} (h : clock.Agree clock') (start stop : Nat) :
    isWorkTime clock start stop = isWorkTime clock' start stop := by
  rw [isWorkTime, isWorkTime, h.hour, h.isWeekend]

lemma isWorkingHours_run_congr (hclock : ctx.clock.Agree ctx'.clock)
    (hhours : ctx.workingHours = ctx'.workingHours) (args : List String)
    (haccepts : isWorkingHours.arity.Accepts args.length) :
    isWorkingHours.run ctx () args haccepts = isWorkingHours.run ctx' () args haccepts := by
  simp only [isWorkingHours, hhours, isWorkTime_congr hclock]

lemma isWeekend_run_congr (hclock : ctx.clock.Agree ctx'.clock) (args : List String)
    (haccepts : isWeekend.arity.Accepts args.length) :
    isWeekend.run ctx () args haccepts = isWeekend.run ctx' () args haccepts :=
  congrArg Except.ok hclock.isWeekend

/-! ### Working hours -/

/-- An argument that is an hour from 0 to 24: digits of ASCII with an optional plus sign. -/
def WritesHour (arg : String) (hour : Nat) : Prop :=
  (∃ cs, (arg.toList = cs ∨ arg.toList = '+' :: cs) ∧ (cs ≠ [] ∧ ∀ c ∈ cs, c.isDigit) ∧
    Number.ofDigits cs = hour) ∧ hour ≤ 24

lemma readHour_eq_ok_iff {arg : String} {hour : Nat} :
    readHour arg = .ok hour ↔ WritesHour arg hour := by
  have hread : readHour arg = .ok hour ↔
      (Number.unsigned? Number.word32 arg).filter (· ≤ 24) = some hour := by
    rw [readHour]
    split
    next heq => rw [heq, Except.ok.injEq, Option.some.injEq]
    next heq => rw [heq]; exact ⟨nofun, nofun⟩
  rw [hread, Option.filter_eq_some_iff, Number.unsigned?_eq_some_iff, decide_eq_true_eq, and_assoc,
    WritesHour]
  refine and_congr_right fun _ => and_iff_right_of_imp fun hle => ?_
  exact Nat.lt_of_le_of_lt hle (by decide)

/-- Every hour can be written. -/
lemma writesHour_toDigits {hour : Nat} (h : hour ≤ 24) :
    WritesHour (String.ofList (Number.toDigits hour)) hour :=
  ⟨⟨Number.toDigits hour, .inl String.toList_ofList,
    ⟨Number.toDigits_ne_nil, fun _ => Number.isDigit_of_mem_toDigits⟩, Number.ofDigits_toDigits⟩, h⟩

lemma askClock_isWorkingHours {start stop : Nat} (ha : WritesHour a start)
    (hb : WritesHour b stop) : askClock hours "isWorkingHours" [a, b] now offset =
      .ok (isWorkTime (WallClock.ofInstant now offset) start stop) := by
  have haccepts : isWorkingHours.arity.Accepts [a, b].length :=
    ⟨Nat.zero_le 2, fun m hm => Nat.le_of_eq (Option.some.inj hm)⟩
  rw [askClock, Registry.askGeneral, ask_of_accepts general_isWorkingHours haccepts]
  simp only [isWorkingHours, readHour_eq_ok_iff.mpr ha, readHour_eq_ok_iff.mpr hb]
  rfl

lemma askClock_isWorkingHours_nil : askClock hours "isWorkingHours" [] now offset =
    .ok (isWorkTime (WallClock.ofInstant now offset) hours.start hours.stop) := by
  have haccepts : isWorkingHours.arity.Accepts ([] : List String).length :=
    ⟨Nat.zero_le _, fun _ _ => Nat.zero_le _⟩
  rw [askClock, Registry.askGeneral, ask_of_accepts general_isWorkingHours haccepts]
  rfl

/-- Working hours that follow one another make up longer ones, and no hour is in both. -/
lemma isWorkTime_split {start mid stop : Nat} (clock : WallClock) (h : start ≤ mid)
    (h' : mid ≤ stop) : isWorkTime clock start stop =
      (isWorkTime clock start mid ^^ isWorkTime clock mid stop) := by
  rcases Nat.lt_or_ge clock.hour mid with hearly | hlate
  · simp [isWorkTime, hearly, Nat.not_le.mpr hearly, Nat.lt_of_lt_of_le hearly h']
  · simp [isWorkTime, hlate, Nat.not_lt.mpr hlate, Nat.le_trans h hlate]

/-- There is no work on a weekend, whatever hours are asked for. -/
lemma isWeekend_eq_false_of_run {haccepts : isWorkingHours.arity.Accepts args.length}
    (h : isWorkingHours.run ctx () args haccepts = .ok true) : ctx.clock.isWeekend = false := by
  have hwork {start stop : Nat} (h : Except.ok (isWorkTime ctx.clock start stop) =
      (.ok true : Except Capability.Error Bool)) : ctx.clock.isWeekend = false := by
    have hwork := Except.ok.inj h
    simp only [isWorkTime, Bool.and_eq_true, Bool.not_eq_true'] at hwork
    exact hwork.1.1
  simp only [isWorkingHours] at h
  split at h
  next => exact hwork h
  next =>
    obtain ⟨start, -, h⟩ := bind_eq_ok_iff.mp h
    obtain ⟨stop, -, h⟩ := bind_eq_ok_iff.mp h
    exact hwork h
  next => cases h

/-! ### The laws of the clock -/

/-- Clocks that agree have the same answers. -/
lemma askClock_congr {now' : Instant} {offset' : Int}
    (h : (WallClock.ofInstant now offset).Agree (WallClock.ofInstant now' offset'))
    (hname : name ∈ ["isWorkingHours", "isWeekend", "isBetween"]) (args : List String) :
    askClock hours name args now offset = askClock hours name args now' offset' := by
  simp only [List.mem_cons, List.not_mem_nil, or_false] at hname
  rcases hname with rfl | rfl | rfl
  · exact askGeneral_congr general_isWorkingHours (isWorkingHours_run_congr h rfl)
  · exact askGeneral_congr general_isWeekend (isWeekend_run_congr h)
  · exact askGeneral_congr general_isBetween (isBetween_run_congr h.second)

/-- **The laws of the clock.** What is asked at an offset has the answer, or the error, of the
question in UTC so many seconds later. Questions about working hours and the weekend have the same
answer whole weeks later, and those about the way between two times whole days later. It is never
working hours and the weekend. Of hours in order, it is within the first and the last just if it is
within one of the two parts, and in no more than one. Without arguments the configured hours are
meant, if these can be written. -/
theorem askClock_regular (hours : WorkingHours) (offset : Int) :
    (∀ name ∈ ["isWorkingHours", "isWeekend", "isBetween"], ∀ args now moved,
      Instant.Shifts now offset moved →
        askClock hours name args now offset = askClock hours name args moved 0) ∧
    (∀ name ∈ ["isWorkingHours", "isWeekend"], ∀ args now moved weeks,
      Instant.Shifts now (weeks * (7 * secondsPerDay)) moved →
        askClock hours name args now offset = askClock hours name args moved offset) ∧
    (∀ args now moved days, Instant.Shifts now (days * secondsPerDay) moved →
      askClock hours "isBetween" args now offset =
        askClock hours "isBetween" args moved offset) ∧
    (∀ args args' now, ¬ (askClock hours "isWorkingHours" args now offset = .ok true ∧
      askClock hours "isWeekend" args' now offset = .ok true)) ∧
    (∀ a b c start mid stop now, WritesHour a start → WritesHour b mid → WritesHour c stop →
      start ≤ mid → mid ≤ stop → ∃ early late : Bool,
        askClock hours "isWorkingHours" [a, b] now offset = .ok early ∧
        askClock hours "isWorkingHours" [b, c] now offset = .ok late ∧
        askClock hours "isWorkingHours" [a, c] now offset = .ok (early ^^ late)) ∧
    (hours.start ≤ 24 → hours.stop ≤ 24 →
      (∃ a b, WritesHour a hours.start ∧ WritesHour b hours.stop) ∧
      ∀ a b now, WritesHour a hours.start → WritesHour b hours.stop →
        askClock hours "isWorkingHours" [] now offset =
          askClock hours "isWorkingHours" [a, b] now offset) := by
  refine ⟨fun name hname args now moved h => ?_, fun name hname args now moved weeks h => ?_,
    fun args now moved days h => ?_, ?_, ?_, ?_⟩
  · exact askClock_congr (WallClock.agree_of_shifts_offset h) hname args
  · have hmem := List.mem_append_left ["isBetween"] hname
    exact askClock_congr (WallClock.agree_of_shifts_weeks offset h) hmem args
  · exact askGeneral_congr general_isBetween
      (isBetween_run_congr (WallClock.second_of_shifts_days offset h))
  · rintro args args' now ⟨hwork, hweekend⟩
    obtain ⟨_, hwork⟩ := run_of_askGeneral general_isWorkingHours hwork
    obtain ⟨_, hweekend⟩ := run_of_askGeneral general_isWeekend hweekend
    exact absurd (Except.ok.inj hweekend) (by rw [isWeekend_eq_false_of_run hwork]; decide)
  · intro a b c start mid stop now ha hb hc h h'
    refine ⟨_, _, askClock_isWorkingHours ha hb, askClock_isWorkingHours hb hc, ?_⟩
    rw [askClock_isWorkingHours ha hc, isWorkTime_split _ h h']
  · intro hstart hstop
    refine ⟨⟨_, _, writesHour_toDigits hstart, writesHour_toDigits hstop⟩, fun a b now ha hb => ?_⟩
    rw [askClock_isWorkingHours_nil, askClock_isWorkingHours ha hb]

/-- Half an hour past midnight on a Saturday, which is the day after `fridayNight` at an offset of an
hour and in UTC an hour later, and so it is after a week. -/
theorem askClock_regular_saturday :
    (∃ saturday, fridayNight.Shifts 3600 saturday ∧
      askClock .standard "isWeekend" [] fridayNight 3600 =
        askClock .standard "isWeekend" [] saturday 0) ∧
    (∃ friday, fridayNight.Shifts (1 * (7 * secondsPerDay)) friday ∧
      askClock .standard "isWeekend" [] fridayNight 3600 =
        askClock .standard "isWeekend" [] friday 3600) ∧
    (∃ saturday, fridayNight.Shifts (1 * secondsPerDay) saturday ∧
      askClock .standard "isBetween" ["22:00", "6:05"] fridayNight 3600 =
        askClock .standard "isBetween" ["22:00", "6:05"] saturday 3600) ∧
    (WritesHour "8" 8 ∧ WritesHour "+12" 12 ∧ WritesHour "18" 18 ∧ ∃ early late : Bool,
      askClock .standard "isWorkingHours" ["8", "+12"] fridayNight 3600 = .ok early ∧
      askClock .standard "isWorkingHours" ["+12", "18"] fridayNight 3600 = .ok late ∧
      askClock .standard "isWorkingHours" ["8", "18"] fridayNight 3600 = .ok (early ^^ late)) ∧
    askClock .standard "isWorkingHours" [] fridayNight 3600 =
      askClock .standard "isWorkingHours" ["8", "18"] fridayNight 3600 := by
  obtain ⟨hutc, hweeks, hdays, -, hparts, hconfigured⟩ := askClock_regular .standard 3600
  have height : WritesHour "8" 8 := readHour_eq_ok_iff.mp (by decide +kernel)
  have htwelve : WritesHour "+12" 12 := readHour_eq_ok_iff.mp (by decide +kernel)
  have heighteen : WritesHour "18" 18 := readHour_eq_ok_iff.mp (by decide +kernel)
  obtain ⟨hour, hhour⟩ := @Instant.exists_shifts fridayNight 3600 (by decide) (by decide)
  obtain ⟨day, hday⟩ :=
    @Instant.exists_shifts fridayNight (1 * secondsPerDay) (by decide) (by decide)
  obtain ⟨week, hweek⟩ :=
    @Instant.exists_shifts fridayNight (1 * (7 * secondsPerDay)) (by decide) (by decide)
  refine ⟨⟨hour, hhour, ?_⟩, ⟨week, hweek, ?_⟩, ⟨day, hday, ?_⟩, ⟨height, htwelve, heighteen, ?_⟩,
    ?_⟩
  · exact hutc "isWeekend" (by simp) [] _ _ hhour
  · exact hweeks "isWeekend" (by simp) [] _ _ 1 hweek
  · exact hdays ["22:00", "6:05"] _ _ 1 hday
  · exact hparts _ _ _ _ _ _ fridayNight height htwelve heighteen (by decide) (by decide)
  · exact (hconfigured (by decide) (by decide)).2 _ _ fridayNight height heighteen

end SensorRules
