import Mathlib.Data.List.Induction
import SensorRules.Proofs.Violation.Update

/-!
How long a violation lasts, over any rounds. The rounds may be of different graphs, and their times
in any order.

* `Round.Fails`: the rule is shown in the round, and its verdict is that it is not met;
* `FailsSince`: the last rounds, from a first one on, are those in which the rule fails without a
  break;
* `Tracker.records_followAll`: after any rounds, a violation is known of just the rules that fail in
  the last one, and it is known since the first round of those.
-/

namespace SensorRules

variable {t : Tracker} {r first : Round} {rounds : List Round} {name : String} {d : Violation}

/-- A rule with the name is shown, and its verdict is that it is not met. -/
def Round.Fails (r : Round) (name : String) : Prop :=
  r.Shows name ∧ ∃ v, r.states[name]? = some v ∧ v.ok = false

/-- The last rounds in which the rule fails without a break begin with `first`. -/
def FailsSince (name : String) (rounds : List Round) (first : Round) : Prop :=
  ∃ before rest, rounds = before ++ first :: rest ∧
    (∀ r ∈ first :: rest, r.Fails name) ∧ ∀ r ∈ before.getLast?, ¬ r.Fails name

/-- If the rule fails in the last round, there is a first round since when it does. -/
lemma exists_failsSince (earlier : List Round) {last : Round} (h : last.Fails name) :
    ∃ first, FailsSince name (earlier ++ [last]) first := by
  induction earlier using List.reverseRecOn generalizing last with
  | nil => exact ⟨last, [], [], rfl, by simpa using h, by simp⟩
  | append_singleton earlier r ih =>
      by_cases hr : r.Fails name
      · obtain ⟨first, before, rest, heq, hrest, hbefore⟩ := ih hr
        refine ⟨first, before, rest ++ [last], by rw [heq]; simp, fun r' hr' => ?_, hbefore⟩
        rw [← List.cons_append, List.mem_append, List.mem_singleton] at hr'
        rcases hr' with hr' | rfl
        · exact hrest r' hr'
        · exact h
      · exact ⟨last, earlier ++ [r], [], rfl, by simpa using h, by simpa using hr⟩

namespace Tracker

/-- The tracker after rounds, one after the other. -/
def followAll (t : Tracker) (rounds : List Round) : Tracker :=
  rounds.foldl follow t

lemma followAll_append (earlier later : List Round) :
    t.followAll (earlier ++ later) = (t.followAll earlier).followAll later :=
  List.foldl_append

/-! ### One round -/

/-- In a round in which the rule fails, the violation begins if there was none. -/
lemma records_follow_of_fails (hr : r.Fails name) : ∃ v, r.states[name]? = some v ∧
    (t.follow r).records[name]? =
      some ⟨(t.records[name]?.map Violation.since).getD r.now, v.violatedSensors⟩ := by
  obtain ⟨hshown, v, hv, hok⟩ := hr
  refine ⟨v, hv, ?_⟩
  have hlearnt : r.verdict? name = some v := Round.verdict?_eq_some_iff.mpr ⟨hshown, hv⟩
  rw [records_follow, hlearnt, Option.bind_some, Violation.next?]
  simp [hok]

/-- After a round in which the rule does not fail, there is no violation. -/
lemma records_follow_of_not_fails (hr : ¬ r.Fails name) : (t.follow r).records[name]? = none := by
  rw [records_follow, Option.bind_eq_none_iff]
  intro v hv
  obtain ⟨hshown, hv⟩ := Round.verdict?_eq_some_iff.mp hv
  cases hok : v.ok with
  | false => exact absurd ⟨hshown, v, hv, hok⟩ hr
  | true => simp [Violation.next?, hok]

/-- A violation that is known after a round has the sensors of the verdict of this round. -/
lemma fails_of_records_follow (hd : (t.follow r).records[name]? = some d) :
    r.Fails name ∧ ∃ w, r.states[name]? = some w ∧ d.violatedSensors = w.violatedSensors := by
  rw [records_follow, Option.bind_eq_some_iff] at hd
  obtain ⟨w, hw, hd⟩ := hd
  obtain ⟨hshown, hw⟩ := Round.verdict?_eq_some_iff.mp hw
  rw [Violation.next?] at hd
  split at hd
  · cases hd
  · rename_i hok
    obtain rfl := Option.some.inj hd
    exact ⟨⟨hshown, w, hw, by simpa using hok⟩, w, hw, rfl⟩

/-! ### Rounds one after the other -/

lemma records_followAll_of_last (h0 : t.records[name]? = none)
    (h : ∀ r ∈ rounds.getLast?, ¬ r.Fails name) : (t.followAll rounds).records[name]? = none := by
  induction rounds using List.reverseRecOn with
  | nil => exact h0
  | append_singleton rounds r _ =>
      rw [followAll_append]
      exact records_follow_of_not_fails (h r (by simp))

/-- While the rule fails, the beginning of its violation stays. -/
lemma since_followAll (hd : t.records[name]? = some d) (h : ∀ r ∈ rounds, r.Fails name) :
    ∃ d', (t.followAll rounds).records[name]? = some d' ∧ d'.since = d.since := by
  induction rounds generalizing t d with
  | nil => exact ⟨d, hd, rfl⟩
  | cons r rounds ih =>
      obtain ⟨v, -, hr⟩ := records_follow_of_fails (t := t) (h r List.mem_cons_self)
      rw [hd, Option.map_some, Option.getD_some] at hr
      obtain ⟨d', hd', hsince⟩ := ih hr fun r' hr' => h r' (List.mem_cons_of_mem r hr')
      exact ⟨d', hd', hsince⟩

lemma since_of_failsSince (h0 : t.records[name]? = none) (h : FailsSince name rounds first) :
    ∃ d, (t.followAll rounds).records[name]? = some d ∧ d.since = first.now := by
  obtain ⟨before, rest, rfl, hrest, hbefore⟩ := h
  obtain ⟨v, -, hfirst⟩ :=
    records_follow_of_fails (t := t.followAll before) (hrest first List.mem_cons_self)
  rw [records_followAll_of_last h0 hbefore] at hfirst
  rw [followAll_append]
  exact since_followAll hfirst fun r' hr' => hrest r' (List.mem_cons_of_mem first hr')

/-- **Violations that last**: after any rounds, a violation is known of just the rules that fail in
the last round. It is known since the first of the rounds up to now in which the rule has failed
without a break, and at fault are the sensors of the last verdict. -/
theorem records_followAll (capacity : Nat) (boundary : Boundary) (earlier : List Round)
    (last : Round) (name : String) :
    let records := ((new capacity boundary).followAll (earlier ++ [last])).records
    ((∃ d, records[name]? = some d) ↔ last.Fails name) ∧
    ∀ d, records[name]? = some d ↔ ∃ first v, FailsSince name (earlier ++ [last]) first ∧
      last.states[name]? = some v ∧ d = ⟨first.now, v.violatedSensors⟩ := by
  intro records
  have hlast : records = (((new capacity boundary).followAll earlier).follow last).records :=
    congrArg Tracker.records (followAll_append earlier [last])
  have hiff : (∃ d, records[name]? = some d) ↔ last.Fails name := by
    rw [hlast]
    refine ⟨fun ⟨d, hd⟩ => ?_, fun hfails => ?_⟩
    · by_contra hfails
      rw [records_follow_of_not_fails hfails] at hd
      cases hd
    · obtain ⟨v, -, hd⟩ := records_follow_of_fails hfails
      exact ⟨_, hd⟩
  -- However the run of rounds is found, the violation has begun with it.
  have hrun : ∀ first v, FailsSince name (earlier ++ [last]) first → last.states[name]? = some v →
      records[name]? = some ⟨first.now, v.violatedSensors⟩ := by
    intro first v hfirst hv
    obtain ⟨d, hd, hsince⟩ : ∃ d, records[name]? = some d ∧ d.since = first.now :=
      since_of_failsSince Std.ExtTreeMap.getElem?_empty hfirst
    obtain ⟨v', hv', hd'⟩ :=
      records_follow_of_fails (t := (new capacity boundary).followAll earlier) (hiff.mp ⟨d, hd⟩)
    obtain rfl := Option.some.inj (hv'.symm.trans hv)
    rw [← hlast, hd, Option.some.injEq] at hd'
    rw [hd, ← hsince, hd']
  refine ⟨hiff, fun d => ⟨fun hd => ?_, ?_⟩⟩
  · have hfails := hiff.mp ⟨d, hd⟩
    obtain ⟨first, hfirst⟩ := exists_failsSince earlier hfails
    obtain ⟨-, v, hv, -⟩ := hfails
    exact ⟨first, v, hfirst, hv, Option.some.inj (hd.symm.trans (hrun first v hfirst hv))⟩
  · rintro ⟨first, v, hfirst, hv, rfl⟩
    exact hrun first v hfirst hv

end Tracker

end SensorRules
