import SensorRules.Proofs.Names
import SensorRules.Violation.Tracker

/-!
What one round does to the violation of one rule. A round is what a tracker is told in one pass.

* `Round`: a graph, the verdicts and the time; `Round.verdict?`: what it learns of a rule, which is
  nothing if the rule is not shown or has no verdict;
* `Violation.next?`: what becomes of the violation of a rule by a verdict on it;
* `Tracker.records_follow`: after a round, the violation of a rule is what the verdict on it has
  made of the one before, and there is none if there is no verdict;
* `Tracker.update_follow`: the same round once more changes nothing.
-/

namespace SensorRules

open Time (Instant)

/-- What a tracker is told in one pass. -/
structure Round where
  graph : RuleGraph
  states : NameTable Verdict
  now : Instant

namespace Round

variable {r : Round} {name : String} {v : Verdict}

/-- A rule with the name is in the graph and shown. -/
def Shows (r : Round) (name : String) : Prop :=
  ∃ n ∈ r.graph.nodes, n.name = name ∧ n.isShown = true

instance (r : Round) (name : String) : Decidable (r.Shows name) :=
  inferInstanceAs (Decidable (∃ n ∈ r.graph.nodes, _))

/-- What is learnt of the rule with a name. -/
def verdict? (r : Round) (name : String) : Option Verdict :=
  if r.Shows name then r.states[name]? else none

lemma verdict?_eq_some_iff :
    r.verdict? name = some v ↔ r.Shows name ∧ r.states[name]? = some v :=
  Option.ite_none_right_eq_some

lemma mem_judged {e : RuleNode × Verdict} : e ∈ Tracker.judged r.graph r.states ↔
    (e.1 ∈ r.graph.nodes ∧ e.1.isShown = true) ∧ r.states[e.1.name]? = some e.2 := by
  rw [Tracker.judged, List.mem_filterMap, RuleGraph.shown]
  refine ⟨fun ⟨n, hn, he⟩ => ?_, fun ⟨hn, hv⟩ => ?_⟩
  · obtain ⟨v, hv, rfl⟩ := Option.map_eq_some_iff.mp he
    exact ⟨List.mem_filter.mp hn, hv⟩
  · exact ⟨e.1, List.mem_filter.mpr hn, by rw [hv]; rfl⟩

/-- All that a round tells of one name is one verdict, though several rules may have the name. -/
lemma verdict?_of_mem_judged {e : RuleNode × Verdict} (he : e ∈ Tracker.judged r.graph r.states) :
    r.verdict? e.1.name = some e.2 := by
  obtain ⟨⟨hmem, hshown⟩, hv⟩ := mem_judged.mp he
  exact verdict?_eq_some_iff.mpr ⟨⟨e.1, hmem, rfl, hshown⟩, hv⟩

lemma mem_names_judged :
    name ∈ (Tracker.judged r.graph r.states).map (·.1.name) ↔ ∃ v, r.verdict? name = some v := by
  refine ⟨fun hname => ?_, fun ⟨v, hv⟩ => ?_⟩
  · obtain ⟨e, he, rfl⟩ := List.mem_map.mp hname
    exact ⟨e.2, verdict?_of_mem_judged he⟩
  · obtain ⟨⟨n, hn, rfl, hshown⟩, hv⟩ := verdict?_eq_some_iff.mp hv
    exact List.mem_map.mpr ⟨(n, v), mem_judged.mpr ⟨⟨hn, hshown⟩, hv⟩, rfl⟩

end Round

/-! ### One rule -/

/-- What becomes of the violation of a rule, or of its absence, by a verdict on it. -/
def Violation.next? (old : Option Violation) (v : Verdict) (now : Instant) : Option Violation :=
  if v.ok then none else some ⟨(old.map Violation.since).getD now, v.violatedSensors⟩

/-- The same verdict once more changes nothing. -/
lemma Violation.next?_next? (old : Option Violation) (v : Verdict) (now : Instant) :
    next? (next? old v now) v now = next? old v now := by
  unfold next?
  cases v.ok <;> rfl

namespace Tracker

variable {now : Instant} {state : Tracker × Outcome} {name : String} {v : Verdict}

/-- To take note of a verdict changes the violation of its rule only. -/
lemma records_observe (now : Instant) (state : Tracker × Outcome) (e : RuleNode × Verdict)
    (name : String) : (observe now state e).1.records[name]? =
      if e.1.name = name then Violation.next? state.1.records[name]? e.2 now
      else state.1.records[name]? := by
  obtain ⟨t, outcome⟩ := state
  obtain ⟨n, v⟩ := e
  by_cases hname : n.name = name
  · subst hname
    rw [if_pos rfl, Violation.next?]
    cases hok : v.ok <;> cases hold : t.records[n.name]? <;>
      simp [observe, hok, hold]
  · -- whatever is written is written under the other name
    rw [if_neg hname]
    cases hok : v.ok <;> cases hold : t.records[n.name]? <;>
      simp [observe, hok, hold, hname, NameTable.getElem?_insert, NameTable.getElem?_erase]

/-- To take note of several verdicts has the same effect on a rule as to take note of the one that
is given under its name. -/
lemma records_foldl_observe {js : List (RuleNode × Verdict)}
    (h : ∀ e ∈ js, e.1.name = name → e.2 = v) :
    (js.foldl (observe now) state).1.records[name]? =
      if name ∈ js.map (·.1.name) then Violation.next? state.1.records[name]? v now
      else state.1.records[name]? := by
  induction js generalizing state with
  | nil => simp
  | cons e js ih =>
      rw [List.foldl_cons, ih fun e' he' => h e' (List.mem_cons_of_mem _ he'), records_observe,
        List.map_cons]
      by_cases hname : e.1.name = name
      · rw [if_pos hname, h e List.mem_cons_self hname, Violation.next?_next?, ite_self,
          if_pos (hname ▸ List.mem_cons_self)]
      · simp only [hname, if_false, List.mem_cons, Ne.symm hname, false_or]

lemma records_keepOnly (names : List String) (state : Tracker × Outcome) (name : String) :
    (keepOnly (NameSet.ofNames names) state).1.records[name]? =
      if name ∈ names then state.1.records[name]? else none := by
  have hfilter : (keepOnly (NameSet.ofNames names) state).1.records[name]? =
      state.1.records[name]?.filter fun _ => (NameSet.ofNames names).contains name :=
    Std.ExtTreeMap.getElem?_filter'
  rw [hfilter, NameSet.contains_ofNames]
  cases state.1.records[name]? with
  | none => simp
  | some d => simp [Option.filter_some]

/-! ### A whole round -/

/-- The tracker after a round. -/
def follow (t : Tracker) (r : Round) : Tracker :=
  (t.update r.graph r.states r.now).1

/-- **One round**: the violation of a rule is what the verdict on it has made of the one before. A
rule that is not shown or has no verdict is left without. -/
theorem records_follow (t : Tracker) (r : Round) (name : String) :
    (t.follow r).records[name]? =
      (r.verdict? name).bind fun v => Violation.next? t.records[name]? v r.now := by
  rw [follow, update, records_keepOnly]
  cases hv : r.verdict? name with
  | none =>
      rw [if_neg, Option.bind_none]
      simp [Round.mem_names_judged, hv]
  | some v =>
      have hname := Round.mem_names_judged.mpr ⟨v, hv⟩
      have hone : ∀ e ∈ judged r.graph r.states, e.1.name = name → e.2 = v := by
        rintro e he rfl
        exact Option.some.inj ((Round.verdict?_of_mem_judged he).symm.trans hv)
      rw [if_pos hname, records_foldl_observe hone, if_pos hname, Option.bind_some]

/-! ### The same round once more -/

/-- A round has already done what each of its verdicts does. -/
lemma observe_follow {t : Tracker} {r : Round} {e : RuleNode × Verdict}
    (he : e ∈ judged r.graph r.states) (outcome : Outcome) :
    observe r.now (t.follow r, outcome) e = (t.follow r, outcome) := by
  obtain ⟨n, v⟩ := e
  have hrecord : (t.follow r).records[n.name]? =
      Violation.next? t.records[n.name]? v r.now := by
    rw [records_follow, Round.verdict?_of_mem_judged he, Option.bind_some]
  cases hok : v.ok with
  | true =>
      rw [Violation.next?, if_pos hok] at hrecord
      simp only [observe, hok, hrecord]
  | false =>
      rw [Violation.next?, if_neg (by simp [hok])] at hrecord
      simp only [observe, hok, hrecord, NameTable.insert_eq_self hrecord]

lemma keepOnly_eq_self {t : Tracker} {names : List String} (outcome : Outcome)
    (h : ∀ name ∈ t.records, name ∈ names) :
    keepOnly (NameSet.ofNames names) (t, outcome) = (t, { outcome with dropped := [] }) := by
  have hrecords : (keepOnly (NameSet.ofNames names) (t, outcome)).1.records = t.records := by
    refine Std.ExtTreeMap.ext_getElem? fun name => ?_
    rw [records_keepOnly]
    split
    next => rfl
    next hname => exact (Std.ExtTreeMap.getElem?_eq_none fun hmem => hname (h name hmem)).symm
  have hdropped : t.records.keys.filter (fun name => !(NameSet.ofNames names).contains name) =
      [] := by
    refine List.filter_eq_nil_iff.mpr fun name hname => ?_
    simp [NameSet.contains_ofNames, h name (Std.ExtTreeMap.mem_keys.mp hname)]
  calc keepOnly (NameSet.ofNames names) (t, outcome)
      = ({ t with records := (keepOnly (NameSet.ofNames names) (t, outcome)).1.records },
          { outcome with dropped := t.records.keys.filter fun name =>
            !(NameSet.ofNames names).contains name }) := rfl
    _ = (t, { outcome with dropped := [] }) := by rw [hrecords, hdropped]

/-- **The same round once more** changes nothing: no violation begins, ends or is dropped. -/
theorem update_follow (t : Tracker) (r : Round) :
    (t.follow r).update r.graph r.states r.now = (t.follow r, .none) := by
  have hfold : (judged r.graph r.states).foldl (observe r.now) (t.follow r, .none) =
      (t.follow r, .none) := by
    refine List.foldlRecOn (motive := fun state => state = (t.follow r, Outcome.none)) _ _ rfl ?_
    rintro _ rfl e he
    exact observe_follow he .none
  have hnames : ∀ name ∈ (t.follow r).records,
      name ∈ (judged r.graph r.states).map (·.1.name) := by
    intro name hname
    obtain ⟨d, hd⟩ := Option.isSome_iff_exists.mp (Std.ExtTreeMap.isSome_getElem?_iff_mem.mpr hname)
    rw [records_follow, Option.bind_eq_some_iff] at hd
    obtain ⟨v, hv, -⟩ := hd
    exact Round.mem_names_judged.mpr ⟨v, hv⟩
  rw [update, hfold, keepOnly_eq_self .none hnames]
  rfl

end Tracker

end SensorRules
