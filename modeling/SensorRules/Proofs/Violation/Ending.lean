import Mathlib.Data.List.Basic
import SensorRules.Proofs.Violation.Lasting

/-!
How violations end, over any rounds.

* `eq_of_ordered`: two lists in strict order with the same members are equal;
* `History.events_pushAll`: of several events that go into a history, the latest stay;
* `Round.shown?` and `Round.place`: the rule that speaks for a name in a round, and its place among
  the rules that are shown;
* `Tracker.endings`: the events that the verdicts of a round make, by going through the rules;
  `mem_endings` and `endings_inOrder` tell which they are and how they are ordered;
* `Ends`: a round ends the run of rounds before it in which a rule has failed without a break;
* `Tracker.history_followAll`: after any rounds, the history holds the latest of the events of just
  the runs that some round has ended, in the order of the rounds and then of the rules.
-/

namespace SensorRules

open Time (Instant)

/-! ### Lists in strict order -/

section Ordered

variable {α : Type} {key : α → Nat} {l l' : List α}

lemma nodup_of_ordered (h : l.Pairwise fun a b => key a < key b) : l.Nodup := by
  refine List.nodup_iff_pairwise_ne.mpr (h.imp fun hlt heq => ?_)
  rw [heq] at hlt
  exact Nat.lt_irrefl _ hlt

/-- Two lists in strict order with the same members are equal. -/
lemma eq_of_ordered (h : l.Pairwise fun a b => key a < key b)
    (h' : l'.Pairwise fun a b => key a < key b) (hmem : ∀ a, a ∈ l ↔ a ∈ l') : l = l' := by
  have hperm : l.Perm l' :=
    (List.perm_ext_iff_of_nodup (nodup_of_ordered h) (nodup_of_ordered h')).mpr hmem
  exact hperm.eq_of_pairwise (fun a b _ _ hab hba => absurd hab (Nat.lt_asymm hba)) h h'

end Ordered

/-! ### Events that go into a history -/

namespace History

/-- The history with several events more, one after the other. -/
def pushAll (h : History) (es : List Event) : History :=
  es.foldl push h

lemma pushAll_append (h : History) (es fs : List Event) :
    h.pushAll (es ++ fs) = (h.pushAll es).pushAll fs :=
  List.foldl_append

/-- Only the latest events stay. -/
lemma events_pushAll (h : History) (es : List Event) :
    (h.pushAll es).events = (es.reverse ++ h.events).take h.capacity := by
  induction es generalizing h with
  | nil => exact (List.take_of_length_le h.length_le).symm
  | cons e es ih =>
      have hpush : (h.push e).events = (e :: h.events).take h.capacity := rfl
      rw [pushAll, List.foldl_cons, ← pushAll, ih, hpush, List.reverse_cons, List.append_assoc,
        List.singleton_append]
      -- what does not fit at once does not fit later
      simp [List.take_append, List.take_take, push]

end History

/-! ### One round -/

/-- The rule that speaks for a name: the first one of this name that is shown. -/
def Round.shown? (r : Round) (name : String) : Option RuleNode :=
  r.graph.shown.find? (·.name == name)

/-- The place of a name among the rules that are shown. -/
def Round.place (r : Round) (name : String) : Nat :=
  r.graph.shown.findIdx (·.name == name)

namespace Tracker

variable {states : NameTable Verdict} {now : Instant} {state : Tracker × Outcome} {e : Event}
  {ns : List RuleNode}

/-- The event that a verdict on a rule makes: it ends the violation that there is, if the rule is
met. -/
def ending? (t : Tracker) (now : Instant) (n : RuleNode) (v : Verdict) : Option Event :=
  if v.ok then t.records[n.name]?.map fun d => t.event n.rule d now else none

lemma history_observe (j : RuleNode × Verdict) : (observe now state j).1.history =
    state.1.history.pushAll (state.1.ending? now j.1 j.2).toList := by
  obtain ⟨t, outcome⟩ := state
  obtain ⟨n, v⟩ := j
  cases hok : v.ok <;> cases hold : t.records[n.name]? <;>
    simp [observe, ending?, hok, hold, History.pushAll]

lemma boundary_observe (j : RuleNode × Verdict) :
    (observe now state j).1.boundary = state.1.boundary := by
  obtain ⟨t, outcome⟩ := state
  obtain ⟨n, v⟩ := j
  cases hok : v.ok <;> cases hold : t.records[n.name]? <;> simp [observe, hok, hold]

/-- The events that the verdicts on rules make, one after the other. -/
def endings (states : NameTable Verdict) (now : Instant) :
    Tracker × Outcome → List RuleNode → List Event
  | _, [] => []
  | state, n :: ns =>
    match states[n.name]? with
    | none => endings states now state ns
    | some v =>
      (state.1.ending? now n v).toList ++ endings states now (observe now state (n, v)) ns

lemma history_foldl_observe :
    ((ns.filterMap fun n => states[n.name]?.map (n, ·)).foldl (observe now) state).1.history =
      state.1.history.pushAll (endings states now state ns) := by
  induction ns generalizing state with
  | nil => rfl
  | cons n ns ih =>
      cases hv : states[n.name]? with
      | none => simp only [List.filterMap_cons, endings, hv, Option.map_none, ih]
      | some v =>
          simp only [List.filterMap_cons, endings, hv, Option.map_some, List.foldl_cons, ih,
            history_observe, History.pushAll_append]

lemma boundary_foldl_observe (js : List (RuleNode × Verdict)) :
    (js.foldl (observe now) state).1.boundary = state.1.boundary := by
  induction js generalizing state with
  | nil => rfl
  | cons j js ih => rw [List.foldl_cons, ih, boundary_observe]

lemma ending?_eq_some_iff {n : RuleNode} {v : Verdict} : state.1.ending? now n v = some e ↔
    v.ok = true ∧ ∃ d, state.1.records[n.name]? = some d ∧ state.1.event n.rule d now = e := by
  rw [ending?, Option.ite_none_right_eq_some, Option.map_eq_some_iff]

/-- After a rule is met there is no violation of it. -/
lemma records_observe_of_ok {n : RuleNode} {v : Verdict} (hok : v.ok = true) :
    (observe now state (n, v)).1.records[n.name]? = none := by
  rw [records_observe, if_pos rfl, Violation.next?, if_pos hok]

/-- An event is made by the first rule of its name, if the rule is met and there was a violation. -/
lemma mem_endings : e ∈ endings states now state ns ↔
    ∃ n v d, ns.find? (·.name == e.ruleName) = some n ∧ states[e.ruleName]? = some v ∧
      v.ok = true ∧ state.1.records[e.ruleName]? = some d ∧ state.1.event n.rule d now = e := by
  induction ns generalizing state with
  | nil => simp [endings]
  | cons n ns ih =>
      by_cases hname : n.name = e.ruleName
      · -- the verdict on the first rule of the name leaves nothing for the others
        rw [List.find?_cons_of_pos (by simpa using hname), ← hname]
        cases hv : states[n.name]? with
        | none => simp [endings, hv, ih, ← hname]
        | some v =>
            have hrest : e ∉ endings states now (observe now state (n, v)) ns := by
              rw [ih, ← hname, hv]
              rintro ⟨m, w, d, -, hw, hok, hd, -⟩
              obtain rfl := Option.some.inj hw
              rw [records_observe_of_ok hok] at hd
              cases hd
            simp [endings, hv, hrest, ending?_eq_some_iff]
      · rw [List.find?_cons_of_neg (by simpa using hname)]
        cases hv : states[n.name]? with
        | none => simp only [endings, hv, ih]
        | some v =>
            have hfirst : e ∉ (state.1.ending? now n v).toList := by
              rw [Option.mem_toList, ending?_eq_some_iff]
              rintro ⟨-, d, -, rfl⟩
              exact hname rfl
            have hevent : ∀ r d, (observe now state (n, v)).1.event r d now =
                state.1.event r d now := by
              intro r d
              rw [event, event, escalation, escalation, boundary_observe]
            simp only [endings, hv, List.mem_append, hfirst, false_or, ih, records_observe, hname,
              if_false, hevent]

/-- The events come in the order of the rules. -/
lemma endings_inOrder : (endings states now state ns).Pairwise fun a b =>
    ns.findIdx (·.name == a.ruleName) < ns.findIdx (·.name == b.ruleName) := by
  induction ns generalizing state with
  | nil => exact .nil
  | cons n ns ih =>
      -- whatever the first rule does, later events are of other names
      have hrest : ∀ state, (∀ e ∈ endings states now state ns, n.name ≠ e.ruleName) →
          (endings states now state ns).Pairwise fun a b =>
            (n :: ns).findIdx (·.name == a.ruleName) <
              (n :: ns).findIdx (·.name == b.ruleName) := by
        intro state hne
        refine ih.imp_of_mem fun {a b} ha hb hlt => ?_
        rw [List.findIdx_cons, List.findIdx_cons, beq_false_of_ne (hne a ha),
          beq_false_of_ne (hne b hb)]
        exact Nat.succ_lt_succ hlt
      cases hv : states[n.name]? with
      | none =>
          simp only [endings, hv]
          refine hrest state fun e he heq => ?_
          obtain ⟨-, v, -, -, hv', -⟩ := mem_endings.mp he
          simp [← heq, hv] at hv'
      | some v =>
          have hne :
              ∀ e ∈ endings states now (observe now state (n, v)) ns, n.name ≠ e.ruleName := by
            intro e he heq
            obtain ⟨-, w, d, -, hw, hok, hd, -⟩ := mem_endings.mp he
            rw [← heq, hv] at hw
            obtain rfl := Option.some.inj hw
            rw [← heq, records_observe_of_ok hok] at hd
            cases hd
          simp only [endings, hv]
          refine List.pairwise_append.mpr ⟨?_, hrest _ hne, fun a ha b hb => ?_⟩
          · cases state.1.ending? now n v <;> simp
          · rw [Option.mem_toList, ending?_eq_some_iff] at ha
            obtain ⟨-, d, -, rfl⟩ := ha
            have hself : (n.name == (state.1.event n.rule d now).ruleName) = true :=
              beq_self_eq_true n.name
            rw [List.findIdx_cons, hself, List.findIdx_cons, beq_false_of_ne (hne b hb)]
            exact Nat.succ_pos _

/-- The events that a round makes. -/
def endingsIn (t : Tracker) (r : Round) : List Event :=
  endings r.states r.now (t, .none) r.graph.shown

lemma history_follow (t : Tracker) (r : Round) :
    (t.follow r).history = t.history.pushAll (t.endingsIn r) :=
  history_foldl_observe

lemma boundary_follow (t : Tracker) (r : Round) : (t.follow r).boundary = t.boundary :=
  boundary_foldl_observe _

end Tracker

/-! ### Rounds one after the other -/

/-- A round ends the run of rounds, up to the last one before it, in which the rule with the name of
the event has failed without a break: a rule of this name is shown and now met. The event tells of
the first and the last round of the run, and the message is the one that this rule has for the time
that has passed. -/
def Ends (boundary : Boundary) (before : List Round) (last : Round) (e : Event) : Prop :=
  ∃ n v first final w,
    last.shown? e.ruleName = some n ∧ last.states[e.ruleName]? = some v ∧ v.ok = true ∧
    FailsSince e.ruleName before first ∧
    before.getLast? = some final ∧ final.states[e.ruleName]? = some w ∧
    e = { ruleName := e.ruleName
          message := (Escalation.of n.rule.levels (last.now.elapsedSince first.now)
            boundary).messageFor e.ruleName
          start := first.now
          stop := last.now
          sensors := w.violatedSensors }

namespace Tracker

variable {t : Tracker} {rounds before : List Round} {last : Round} {name : String} {d : Violation}
  {e : Event} {capacity : Nat} {boundary : Boundary}

lemma boundary_followAll : (t.followAll rounds).boundary = t.boundary := by
  induction rounds generalizing t with
  | nil => rfl
  | cons r rounds ih => exact ih.trans (boundary_follow t r)

/-- What is known of a violation after rounds is told by the first and the last round of the run in
which its rule has failed. -/
lemma records_followAll_eq_some_iff (h0 : t.records[name]? = none) :
    (t.followAll rounds).records[name]? = some d ↔
      ∃ first final w, FailsSince name rounds first ∧ rounds.getLast? = some final ∧
        final.states[name]? = some w ∧ d = ⟨first.now, w.violatedSensors⟩ := by
  induction rounds using List.reverseRecOn with
  | nil => simp [followAll, h0]
  | append_singleton earlier final _ =>
      have hfinal : ∀ d', (t.followAll (earlier ++ [final])).records[name]? = some d' →
          final.Fails name ∧ ∃ w, final.states[name]? = some w ∧
            d'.violatedSensors = w.violatedSensors := by
        intro d' hd'
        rw [followAll_append] at hd'
        exact fails_of_records_follow hd'
      rw [List.getLast?_concat]
      refine ⟨fun hd => ?_, ?_⟩
      · obtain ⟨hfails, w, hw, hsensors⟩ := hfinal d hd
        obtain ⟨first, hfirst⟩ := exists_failsSince earlier hfails
        obtain ⟨d', hd', hsince⟩ := since_of_failsSince h0 hfirst
        obtain rfl := Option.some.inj (hd.symm.trans hd')
        exact ⟨first, final, w, hfirst, rfl, hw, by rw [← hsince, ← hsensors]⟩
      · rintro ⟨first, final', w, hfirst, hfinal', hw, rfl⟩
        obtain rfl := Option.some.inj hfinal'
        obtain ⟨d', hd', hsince⟩ := since_of_failsSince h0 hfirst
        obtain ⟨-, w', hw', hsensors⟩ := hfinal d' hd'
        obtain rfl := Option.some.inj (hw.symm.trans hw')
        rw [hd', ← hsince, ← hsensors]

/-- The events that a round makes after others are those of the runs that it ends. -/
lemma mem_endingsIn_followAll :
    e ∈ ((new capacity boundary).followAll before).endingsIn last ↔
      Ends boundary before last e := by
  have h0 : (new capacity boundary).records[e.ruleName]? = none := Std.ExtTreeMap.getElem?_empty
  have hboundary : ((new capacity boundary).followAll before).boundary = boundary :=
    boundary_followAll
  rw [endingsIn, mem_endings, Ends]
  constructor
  · rintro ⟨n, v, d, hn, hv, hok, hd, he⟩
    obtain ⟨first, final, w, hfirst, hfinal, hw, rfl⟩ := (records_followAll_eq_some_iff h0).mp hd
    refine ⟨n, v, first, final, w, hn, hv, hok, hfirst, hfinal, hw, ?_⟩
    rw [← he, event, escalation, hboundary]
  · rintro ⟨n, v, first, final, w, hn, hv, hok, hfirst, hfinal, hw, he⟩
    refine ⟨n, v, ⟨first.now, w.violatedSensors⟩, hn, hv, hok,
      (records_followAll_eq_some_iff h0).mpr ⟨first, final, w, hfirst, hfinal, hw, rfl⟩, ?_⟩
    have hname : n.name = e.ruleName := by simpa using List.find?_some hn
    rw [RuleNode.name] at hname
    rw [he, event, escalation, hboundary, hname]

/-- The events that a round makes do not depend on the room in the history. -/
lemma endingsIn_followAll_eq (capacity capacity' : Nat) :
    ((new capacity boundary).followAll before).endingsIn last =
      ((new capacity' boundary).followAll before).endingsIn last := by
  exact eq_of_ordered endings_inOrder endings_inOrder fun e =>
    mem_endingsIn_followAll.trans mem_endingsIn_followAll.symm

/-- The events that rounds make, each with the position of its round. -/
def eventLog (boundary : Boundary) (rounds : List Round) : List (Nat × Event) :=
  (List.range rounds.length).flatMap fun k =>
    rounds[k]?.toList.flatMap fun last =>
      (((new 0 boundary).followAll (rounds.take k)).endingsIn last).map (k, ·)

lemma mem_eventLog {k : Nat} : (k, e) ∈ eventLog boundary rounds ↔
    ∃ last, rounds[k]? = some last ∧ Ends boundary (rounds.take k) last e := by
  simp only [eventLog, List.mem_flatMap, List.mem_range, Option.mem_toList, List.mem_map,
    Prod.mk.injEq]
  constructor
  · rintro ⟨_, -, last, hlast, _, he, rfl, rfl⟩
    exact ⟨last, hlast, mem_endingsIn_followAll.mp he⟩
  · rintro ⟨last, hlast, he⟩
    exact ⟨k, (List.getElem?_eq_some_iff.mp hlast).1, last, hlast, e,
      mem_endingsIn_followAll.mpr he, rfl, rfl⟩

lemma eventLog_inOrder : (eventLog boundary rounds).Pairwise fun a b => a.1 < b.1 ∨ a.1 = b.1 ∧
    ∀ r, rounds[a.1]? = some r → r.place a.2.ruleName < r.place b.2.ruleName := by
  refine List.pairwise_flatMap.mpr ⟨fun k _ => ?_, ?_⟩
  · cases hlast : rounds[k]? with
    | none => simp
    | some last =>
        simp only [Option.toList_some, List.flatMap_singleton, List.pairwise_map]
        refine endings_inOrder.imp fun hlt => .inr ⟨trivial, fun r hr => ?_⟩
        obtain rfl := Option.some.inj (hlast.symm.trans hr)
        exact hlt
  · refine List.pairwise_lt_range.imp fun hlt a ha b hb => .inl ?_
    simp only [List.mem_flatMap, List.mem_map] at ha hb
    obtain ⟨-, -, -, -, rfl⟩ := ha
    obtain ⟨-, -, -, -, rfl⟩ := hb
    exact hlt

lemma eventLog_append_singleton : eventLog boundary (before ++ [last]) =
    eventLog boundary before ++
      (((new 0 boundary).followAll before).endingsIn last).map (before.length, ·) := by
  rw [eventLog, List.length_append, List.length_singleton, List.range_succ, List.flatMap_append,
    List.flatMap_singleton]
  congr 1
  · refine List.flatMap_congr fun k hk => ?_
    have hlt : k < before.length := List.mem_range.mp hk
    rw [List.getElem?_append_left hlt, List.take_append_of_le_length (Nat.le_of_lt hlt)]
  · simp

lemma history_followAll_eq_pushAll :
    ((new capacity boundary).followAll rounds).history =
      (History.ofCapacity capacity).pushAll ((eventLog boundary rounds).map Prod.snd) := by
  induction rounds using List.reverseRecOn with
  | nil => rfl
  | append_singleton before last ih =>
      have hfollow : ((new capacity boundary).followAll (before ++ [last])).history =
          (((new capacity boundary).followAll before).follow last).history :=
        congrArg Tracker.history (followAll_append before [last])
      rw [hfollow, history_follow, ih, eventLog_append_singleton, List.map_append,
        History.pushAll_append, endingsIn_followAll_eq capacity 0, List.map_map]
      simp [Function.comp_def]

/-- **Violations that end**: over any rounds there is a log of events, one for each run of rounds
without a break in which a rule failed and that was ended by a round in which a rule of its name is
shown and met. The log is in the order of the rounds, and within a round in that of the rules that
are shown, so no run has two events. After the rounds, the history of a tracker that was new holds
the latest events of the log, newest first, as many as it has room for. -/
theorem history_followAll (boundary : Boundary) (rounds : List Round) :
    ∃ log : List (Nat × Event),
      (∀ k e, (k, e) ∈ log ↔
        ∃ last, rounds[k]? = some last ∧ Ends boundary (rounds.take k) last e) ∧
      (log.Pairwise fun a b => a.1 < b.1 ∨ a.1 = b.1 ∧
        ∀ r, rounds[a.1]? = some r → r.place a.2.ruleName < r.place b.2.ruleName) ∧
      ∀ capacity, ((new capacity boundary).followAll rounds).history.events =
        (log.map Prod.snd).reverse.take (max 1 capacity) := by
  refine ⟨eventLog boundary rounds, fun _ _ => mem_eventLog, eventLog_inOrder, fun capacity => ?_⟩
  rw [history_followAll_eq_pushAll, History.events_pushAll]
  simp [History.ofCapacity]

end Tracker

end SensorRules
