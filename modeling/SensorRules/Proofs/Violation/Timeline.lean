import SensorRules.Proofs.Violation.Escalating

/-!
Violations on the line of time, over any rounds whose times never decrease, with the tracker cleared
at any point.

* `Turn`, `Tracker.turnAll`: rounds and clearings, one after the other;
* `Tracker.InOrder`: what is known of violations, going on or over, fits on the line of time up to
  the latest round;
* `Tracker.InOrder.observe`: each verdict keeps it so, and with it each turn (`InOrder.turn`);
* `Tracker.timeline`: after any turns, no violation begins after the latest round, none ends before
  it begins, they are listed by their ends, and those of one rule do not overlap.
-/

namespace SensorRules

open Time (Instant)

/-- What may happen to a tracker. -/
inductive Turn where
  | round (r : Round)
  | clear

/-- The time of a round. -/
def Turn.time? : Turn → Option Instant
  | round r => some r.now
  | clear => none

/-- The times of rounds. -/
def Turn.times (turns : List Turn) : List Instant :=
  turns.filterMap time?

namespace Tracker

variable {t t' : Tracker} {latest : Option Instant} {now : Instant} {name : String}
  {d : Violation} {e : Event} {r : Round} {turns : List Turn}

/-- What a turn makes of a tracker. -/
def turn (t : Tracker) : Turn → Tracker
  | .round r => t.follow r
  | .clear => t.clear

/-- The tracker after turns, one after the other. -/
def turnAll (t : Tracker) (turns : List Turn) : Tracker :=
  turns.foldl turn t

/-- All violations, going on or over, fit on the line of time up to the latest round: newer events
do not end before older ones, and what there is of one rule comes one after the other. -/
structure InOrder (t : Tracker) (latest : Option Instant) : Prop where
  since_le : ∀ (name : String) (d : Violation), t.records[name]? = some d →
    ∃ now ∈ latest, d.since ≤ now
  stop_le : ∀ e ∈ t.history.events, ∃ now ∈ latest, e.stop ≤ now
  start_le_stop : ∀ e ∈ t.history.events, e.start ≤ e.stop
  byStop : t.history.events.Pairwise fun newer older => older.stop ≤ newer.stop
  apart : t.history.events.Pairwise fun newer older =>
    newer.ruleName = older.ruleName → older.stop ≤ newer.start
  lasting : ∀ e ∈ t.history.events, ∀ d, t.records[e.ruleName]? = some d → e.stop ≤ d.since

namespace InOrder

/-- Without violations all is in order. -/
lemma of_nothing (hrecords : t.records = ∅) (hevents : t.history.events = []) :
    t.InOrder latest := by
  refine ⟨fun name d hd => ?_, ?_, ?_, ?_, ?_, ?_⟩
  · rw [hrecords, Std.ExtTreeMap.getElem?_empty] at hd
    cases hd
  all_goals
    rw [hevents]
    simp

/-- Time goes on. -/
lemma mono (h : t.InOrder latest) (hle : ∀ earlier ∈ latest, earlier ≤ now) :
    t.InOrder (some now) := by
  have hlatest : ∀ i, (∃ earlier ∈ latest, i ≤ earlier) → ∃ later ∈ some now, i ≤ later := by
    rintro i ⟨earlier, hearlier, hi⟩
    exact ⟨now, rfl, hi.trans (hle earlier hearlier)⟩
  exact { h with
    since_le := fun name d hd => hlatest d.since (h.since_le name d hd)
    stop_le := fun e he => hlatest e.stop (h.stop_le e he) }

/-- Violations may be dropped. -/
lemma of_records (h : t.InOrder latest) (hhistory : t'.history = t.history)
    (hrecords : ∀ (name : String) (d : Violation), t'.records[name]? = some d →
      t.records[name]? = some d) : t'.InOrder latest where
  since_le name d hd := h.since_le name d (hrecords name d hd)
  stop_le := by rw [hhistory]; exact h.stop_le
  start_le_stop := by rw [hhistory]; exact h.start_le_stop
  byStop := by rw [hhistory]; exact h.byStop
  apart := by rw [hhistory]; exact h.apart
  lasting := by
    rw [hhistory]
    exact fun e he d hd => h.lasting e he d (hrecords e.ruleName d hd)

/-- A violation may be noted that begins after the events of its rule. -/
lemma insert (h : t.InOrder latest) (hsince : ∃ now ∈ latest, d.since ≤ now)
    (hlasting : ∀ e ∈ t.history.events, e.ruleName = name → e.stop ≤ d.since) :
    InOrder { t with records := t.records.insert name d } latest := by
  refine { h with since_le := fun name' d' hd' => ?_, lasting := fun e he d' hd' => ?_ }
  · rw [NameTable.getElem?_insert] at hd'
    split at hd'
    next => exact Option.some.inj hd' ▸ hsince
    next => exact h.since_le name' d' hd'
  · rw [NameTable.getElem?_insert] at hd'
    split at hd'
    next heq => exact Option.some.inj hd' ▸ hlasting e he heq.symm
    next => exact h.lasting e he d' hd'

/-- A violation may end now. -/
lemma push (h : t.InOrder (some now)) (hd : t.records[e.ruleName]? = some d)
    (hstart : e.start = d.since) (hstop : e.stop = now) :
    InOrder { t with records := t.records.erase e.ruleName, history := t.history.push e }
      (some now) := by
  have hsince : d.since ≤ now := by
    obtain ⟨_, ⟨⟩, hle⟩ := h.since_le e.ruleName d hd
    exact hle
  have hmem : ∀ e' ∈ (t.history.push e).events, e' = e ∨ e' ∈ t.history.events :=
    fun e' he' => List.mem_cons.mp (List.mem_of_mem_take he')
  -- The new event comes first, and the history may forget its last one.
  constructor
  case since_le =>
    intro name' d' hd'
    rw [NameTable.getElem?_erase] at hd'
    split at hd'
    next => cases hd'
    next => exact h.since_le name' d' hd'
  case stop_le =>
    intro e' he'
    rcases hmem e' he' with rfl | he'
    · exact ⟨now, rfl, hstop.le⟩
    · exact h.stop_le e' he'
  case start_le_stop =>
    intro e' he'
    rcases hmem e' he' with rfl | he'
    · rw [hstart, hstop]
      exact hsince
    · exact h.start_le_stop e' he'
  case byStop =>
    refine List.Pairwise.sublist (List.take_sublist _ _) (List.pairwise_cons.mpr ⟨?_, h.byStop⟩)
    intro e' he'
    obtain ⟨_, ⟨⟩, hle⟩ := h.stop_le e' he'
    rw [hstop]
    exact hle
  case apart =>
    refine List.Pairwise.sublist (List.take_sublist _ _) (List.pairwise_cons.mpr ⟨?_, h.apart⟩)
    intro e' he' hname
    rw [hstart]
    exact h.lasting e' he' d (hname ▸ hd)
  case lasting =>
    intro e' he' d' hd'
    rw [NameTable.getElem?_erase] at hd'
    split at hd'
    next => cases hd'
    next hne =>
      -- A rule with a violation that lasts is not the one of which the violation ends.
      refine h.lasting e' ((hmem e' he').resolve_left ?_) d' hd'
      rintro rfl
      exact hne rfl

/-- Each verdict on a rule keeps all in order. -/
lemma observe {state : Tracker × Outcome} (h : state.1.InOrder (some now))
    (j : RuleNode × Verdict) : (observe now state j).1.InOrder (some now) := by
  obtain ⟨t, outcome⟩ := state
  obtain ⟨n, v⟩ := j
  cases hok : v.ok with
  | false =>
      cases hold : t.records[n.name]? with
      | none =>
          simp only [Tracker.observe, hok, hold]
          refine h.insert ⟨now, rfl, le_refl now⟩ fun e he _ => ?_
          obtain ⟨_, ⟨⟩, hle⟩ := h.stop_le e he
          exact hle
      | some d =>
          simp only [Tracker.observe, hok, hold]
          refine h.insert (h.since_le n.name d hold) fun e he hname => ?_
          exact h.lasting e he d (hname ▸ hold)
  | true =>
      cases hold : t.records[n.name]? with
      | none =>
          simp only [Tracker.observe, hok, hold]
          exact h
      | some d =>
          simp only [Tracker.observe, hok, hold]
          exact h.push (e := t.event n.rule d now) hold rfl rfl

/-- A round keeps all in order if time has not gone back. -/
lemma follow (h : t.InOrder latest) (hle : ∀ earlier ∈ latest, earlier ≤ r.now) :
    (t.follow r).InOrder (some r.now) := by
  have hfold : ((judged r.graph r.states).foldl (Tracker.observe r.now) (t, .none)).1.InOrder
      (some r.now) :=
    List.foldlRecOn (motive := fun state : Tracker × Outcome => state.1.InOrder (some r.now)) _ _
      (h.mono hle)
      fun _ hstate j _ => hstate.observe j
  refine hfold.of_records rfl fun name d hd => ?_
  rw [Tracker.follow, update, records_keepOnly] at hd
  exact (Option.ite_none_right_eq_some.mp hd).2

/-- Turns keep all in order if time never goes back. -/
lemma turnAll (capacity : Nat) (boundary : Boundary)
    (h : (Turn.times turns).Pairwise (· ≤ ·)) :
    ((Tracker.new capacity boundary).turnAll turns).InOrder (Turn.times turns).getLast? := by
  induction turns using List.reverseRecOn with
  | nil => exact of_nothing rfl rfl
  | append_singleton turns turn ih =>
      have htimes : Turn.times (turns ++ [turn]) = Turn.times turns ++ turn.time?.toList := by
        rw [Turn.times, List.filterMap_append]
        cases turn <;> rfl
      rw [htimes] at h ⊢
      obtain ⟨hbefore, -, hlast⟩ := List.pairwise_append.mp h
      rw [Tracker.turnAll, List.foldl_append]
      cases turn with
      | round r =>
          rw [Turn.time?, Option.toList_some, List.getLast?_concat]
          refine (ih hbefore).follow fun earlier hearlier => ?_
          exact hlast earlier (List.mem_of_getLast? hearlier) r.now List.mem_cons_self
      | clear =>
          rw [Turn.time?, Option.toList_none, List.append_nil]
          exact of_nothing rfl rfl

end InOrder

/-- **Violations on the line of time.** After any rounds whose times never decrease, with the
tracker cleared at any point, violations that last do not begin after the latest round, events do
not end before they begin, their durations are not negative, the history lists them with the latest
end first, and of two events of one rule the older one ends before the newer one begins, or at the
same instant. -/
theorem timeline (capacity : Nat) (boundary : Boundary) (turns : List Turn)
    (h : (Turn.times turns).Pairwise (· ≤ ·)) :
    let t := (new capacity boundary).turnAll turns
    (∀ (name : String) (d : Violation), t.records[name]? = some d →
      ∃ latest ∈ (Turn.times turns).getLast?, d.since ≤ latest) ∧
    (∀ e ∈ t.history.events, e.start ≤ e.stop ∧ 0 ≤ e.durationSecs) ∧
    (∀ limit, (t.history.recent limit).Pairwise fun newer older => older.stop ≤ newer.stop) ∧
    t.history.events.Pairwise fun newer older =>
      newer.ruleName = older.ruleName → older.stop ≤ newer.start := by
  intro t
  have horder : t.InOrder (Turn.times turns).getLast? := .turnAll capacity boundary h
  refine ⟨horder.since_le, fun e he => ?_, fun limit => ?_, horder.apart⟩
  · have hle := horder.start_le_stop e he
    exact ⟨hle, Instant.secondsSince_nonneg hle⟩
  · exact horder.byStop.sublist (List.take_sublist limit _)

/-- A round in which the door is shut. -/
def shutAt (now : Instant) : Round :=
  { ajarAt now with states := Std.ExtTreeMap.ofList [("Ajar", Verdict.passed)] }

/-- The door is opened in a leap second, shut and opened again at the beginning of the year, and then
shut. What was known before is forgotten. -/
def ajarTurns : List Turn :=
  [.round (ajarAt lastMinute), .clear, .round (ajarAt leapSecond), .round (shutAt newYear),
    .round (ajarAt newYear), .round (shutAt afterNewYear)]

/-- The two events meet at the beginning of the year, and the older one has lasted for less than a
second. -/
theorem timeline_ajar :
    let events := ((new 5 .previousHook).turnAll ajarTurns).history.events
    (Turn.times ajarTurns).Pairwise (· ≤ ·) ∧
      events.map (fun e => (e.start, e.stop, e.durationSecs)) =
        [(newYear, afterNewYear, 1), (leapSecond, newYear, 0)] ∧
      (∀ e ∈ events, e.start ≤ e.stop ∧ 0 ≤ e.durationSecs) ∧
      events.Pairwise fun newer older =>
        newer.ruleName = older.ruleName → older.stop ≤ newer.start := by
  intro events
  have htimes : (Turn.times ajarTurns).Pairwise (· ≤ ·) := by decide
  obtain ⟨-, hlasting, -, hapart⟩ := timeline 5 .previousHook ajarTurns htimes
  exact ⟨htimes, by decide +kernel, hlasting, hapart⟩

end Tracker

end SensorRules
