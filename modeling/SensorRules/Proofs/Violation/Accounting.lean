import SensorRules.Proofs.Violation.Ending
import SensorRules.Proofs.Violation.Outcome

/-!
The outcome of a round accounts for all that the round changes.

* `idxOf_inOrder_eraseDups`: the first occurrences of entries, in order;
* `Tracker.firstsWith_inOrder`: what is opened and cleared is in the order of the rules;
* `Tracker.map_ruleName_endingsIn`: the events of a round are of the rules that are cleared;
* `Round.Accounts` and `Tracker.accounts_update`: what is opened, cleared and dropped is just the
  difference of the violations before and after, each reported once and in order.
-/

namespace SensorRules

/-! ### First occurrences -/

/-- The first occurrences of the entries that have a property come in the order of the list. -/
lemma idxOf_inOrder_eraseDups {α : Type} [DecidableEq α] (p : α → Bool) (l : List α) :
    (l.filter p).eraseDups.Pairwise fun a b => l.idxOf a < l.idxOf b := by
  induction l generalizing p with
  | nil => exact .nil
  | cons c l ih =>
      -- entries other than the first one are further on by one place
      have hrest : ∀ q : α → Bool, q c = false →
          (l.filter q).eraseDups.Pairwise fun a b => (c :: l).idxOf a < (c :: l).idxOf b := by
        intro q hq
        have hne : ∀ a ∈ (l.filter q).eraseDups, c ≠ a := by
          rintro a ha rfl
          rw [List.mem_eraseDups, List.mem_filter, hq] at ha
          exact Bool.false_ne_true ha.2
        refine (ih q).imp_of_mem fun {a b} ha hb hlt => ?_
        rw [List.idxOf_cons_ne l (hne a ha), List.idxOf_cons_ne l (hne b hb)]
        exact Nat.succ_lt_succ hlt
      cases hc : p c with
      | false =>
          rw [List.filter_cons_of_neg (by simp [hc])]
          exact hrest p hc
      | true =>
          rw [List.filter_cons_of_pos hc, List.eraseDups_cons, List.filter_filter]
          refine List.pairwise_cons.mpr ⟨fun b hb => ?_, hrest _ (by simp)⟩
          have hb : b ≠ c := by
            rw [List.mem_eraseDups, List.mem_filter] at hb
            simpa using (Bool.and_eq_true_iff.mp hb.2).1
          rw [List.idxOf_cons_self, List.idxOf_cons_ne l hb.symm]
          exact Nat.succ_pos _

namespace Round

lemma exists_shown?_iff {r : Round} {name : String} :
    (∃ n, r.shown? name = some n) ↔ r.Shows name := by
  simp only [← Option.isSome_iff_exists, shown?, List.find?_isSome, RuleGraph.shown,
    List.mem_filter, Shows, beq_iff_eq]
  exact exists_congr fun n => by rw [and_assoc, and_comm (a := n.isShown = true)]

lemma place_eq_idxOf (r : Round) (name : String) :
    r.place name = (r.graph.shown.map RuleNode.name).idxOf name := by
  rw [place, List.idxOf, List.findIdx_map]
  rfl

end Round

namespace Tracker

variable {t : Tracker} {g : RuleGraph} {r : Round} {states : NameTable Verdict} {name : String}
  {p : String → Verdict → Bool}

/-! ### The order of the rules -/

/-- The names that have a property by what a round tells are among those of the rules shown. -/
lemma namesWith_judged_shown (p : String → Verdict → Bool) : namesWith p (judged g states) =
    (g.shown.map RuleNode.name).filter fun name => states[name]?.any (p name) := by
  rw [namesWith, judged]
  induction g.shown with
  | nil => rfl
  | cons n ns ih =>
      rw [List.map_cons, List.filter_cons, ← ih]
      cases hv : states[n.name]? with
      | none => simp [hv]
      | some v => cases hp : p n.name v <;> simp [hv, hp]

lemma firstsWith_inOrder :
    (firstsWith p (judged r.graph r.states)).Pairwise fun a b => r.place a < r.place b := by
  simp only [Round.place_eq_idxOf]
  rw [firstsWith, namesWith_judged_shown]
  exact idxOf_inOrder_eraseDups _ _

lemma mem_firstsWith_judged : name ∈ firstsWith p (judged r.graph r.states) ↔
    ∃ v, r.verdict? name = some v ∧ p name v = true := by
  rw [mem_firstsWith]
  constructor
  · rintro ⟨j, hj, hp, rfl⟩
    exact ⟨j.2, Round.verdict?_of_mem_judged hj, hp⟩
  · rintro ⟨v, hv, hp⟩
    obtain ⟨⟨n, hn, rfl, hshown⟩, hstate⟩ := Round.verdict?_eq_some_iff.mp hv
    exact ⟨(n, v), Round.mem_judged.mpr ⟨⟨hn, hshown⟩, hstate⟩, hp, rfl⟩

/-! ### The events -/

lemma mem_map_ruleName_endingsIn : name ∈ (t.endingsIn r).map Event.ruleName ↔
    ∃ v, r.verdict? name = some v ∧ t.closes name v = true := by
  rw [List.mem_map]
  constructor
  · rintro ⟨e, he, rfl⟩
    obtain ⟨n, v, d, hn, hv, hok, hd, -⟩ := mem_endings.mp he
    have hshows : r.Shows e.ruleName := Round.exists_shown?_iff.mp ⟨n, hn⟩
    exact ⟨v, Round.verdict?_eq_some_iff.mpr ⟨hshows, hv⟩, by simp [closes, hok, hd]⟩
  · rintro ⟨v, hv, hcloses⟩
    rw [closes, Bool.and_eq_true, Option.isSome_iff_exists] at hcloses
    obtain ⟨hok, d, hd⟩ := hcloses
    obtain ⟨hshows, hstate⟩ := Round.verdict?_eq_some_iff.mp hv
    obtain ⟨n, hn⟩ := Round.exists_shown?_iff.mpr hshows
    obtain rfl : n.name = name := by simpa using List.find?_some hn
    exact ⟨t.event n.rule d r.now, mem_endings.mpr ⟨n, v, d, hn, hstate, hok, hd, rfl⟩, rfl⟩

/-- The events of a round are of the rules that are cleared, one for each and in their order. -/
lemma map_ruleName_endingsIn :
    (t.endingsIn r).map Event.ruleName = firstsWith t.closes (judged r.graph r.states) :=
  eq_of_ordered (List.pairwise_map.mpr endings_inOrder) firstsWith_inOrder fun _ =>
    mem_map_ruleName_endingsIn.trans mem_firstsWith_judged.symm

/-! ### The account of a round -/

lemma mem_records_follow : name ∈ (t.follow r).records ↔
    ∃ v, r.verdict? name = some v ∧ v.ok = false := by
  rw [← Std.ExtTreeMap.isSome_getElem?_iff_mem, records_follow]
  cases r.verdict? name with
  | none => simp
  | some v => cases hok : v.ok <;> simp [Violation.next?, hok]

/-- A violation that lasts through a round keeps its beginning. -/
lemma since_follow (hbefore : name ∈ t.records) (hafter : name ∈ (t.follow r).records) :
    (t.follow r).records[name]?.map Violation.since = t.records[name]?.map Violation.since := by
  obtain ⟨v, hv, hok⟩ := mem_records_follow.mp hafter
  obtain ⟨d, hd⟩ := Option.isSome_iff_exists.mp (Std.ExtTreeMap.isSome_getElem?_iff_mem.mpr hbefore)
  rw [records_follow, hv, hd, Option.bind_some, Violation.next?, if_neg (by simp [hok])]
  rfl

/-- What is opened is what there is after and not before. -/
lemma mem_firstsWith_opens : name ∈ firstsWith t.opens (judged r.graph r.states) ↔
    name ∉ t.records ∧ name ∈ (t.follow r).records := by
  simp only [mem_firstsWith_judged, opens_iff, mem_records_follow, ← and_assoc, exists_and_right]
  exact and_comm

lemma mem_firstsWith_closes : name ∈ firstsWith t.closes (judged r.graph r.states) ↔
    name ∈ t.records ∧ ∃ v, r.verdict? name = some v ∧ v.ok = true := by
  simp only [mem_firstsWith_judged, closes_iff, ← and_assoc, exists_and_right]
  exact and_comm

lemma mem_dropped : (name ∈ t.records.keys.filter fun name =>
      name ∉ (judged r.graph r.states).map (·.1.name)) ↔
    name ∈ t.records ∧ r.verdict? name = none := by
  rw [List.mem_filter, Std.ExtTreeMap.mem_keys, decide_eq_true_iff, Round.mem_names_judged,
    ← Option.isSome_iff_exists, Option.not_isSome_iff_eq_none]

end Tracker

/-- An outcome accounts for what a round makes of the violations and the history of a tracker. -/
structure Round.Accounts (r : Round) (t t' : Tracker) (o : Outcome) : Prop where
  /-- No rule is reported twice, neither in one list nor in two. -/
  nodup : (o.opened ++ o.cleared ++ o.dropped).Nodup
  opened_iff : ∀ name, name ∈ o.opened ↔ name ∉ t.records ∧ name ∈ t'.records
  ended_iff : ∀ name, name ∈ o.cleared ∨ name ∈ o.dropped ↔ name ∈ t.records ∧ name ∉ t'.records
  cleared_iff : ∀ name, name ∈ o.cleared ↔
    name ∈ t.records ∧ ∃ v, r.verdict? name = some v ∧ v.ok = true
  dropped_iff : ∀ name, name ∈ o.dropped ↔ name ∈ t.records ∧ r.verdict? name = none
  opened_inOrder : o.opened.Pairwise fun a b => r.place a < r.place b
  cleared_inOrder : o.cleared.Pairwise fun a b => r.place a < r.place b
  dropped_inOrder : o.dropped.Pairwise (· < ·)
  /-- One event goes into the history for each rule that is cleared, in the same order: that of the
  violation there was. -/
  events : ∃ es, t'.history = t.history.pushAll es ∧ es.map Event.ruleName = o.cleared ∧
    ∀ e ∈ es, ∃ n d, r.shown? e.ruleName = some n ∧ t.records[e.ruleName]? = some d ∧
      e = t.event n.rule d r.now
  /-- Other violations keep their beginning. -/
  others : ∀ name, name ∉ o.opened → name ∉ o.cleared → name ∉ o.dropped →
    t'.records[name]?.map Violation.since = t.records[name]?.map Violation.since

namespace Tracker

variable {t : Tracker} {r : Round} {name : String}

/-- A violation that there is before a round and not after has ended: its rule is met, or nothing is
told of it. -/
lemma ended_iff : (name ∈ t.records ∧ ∃ v, r.verdict? name = some v ∧ v.ok = true) ∨
      name ∈ t.records ∧ r.verdict? name = none ↔
    name ∈ t.records ∧ name ∉ (t.follow r).records := by
  rw [← and_or_left, mem_records_follow]
  refine and_congr_right fun _ => ?_
  cases r.verdict? name with
  | none => simp
  | some v => simp

/-- A violation that is neither opened, cleared nor dropped lasts, or there is none. -/
lemma since_of_notMem (ho : name ∉ firstsWith t.opens (judged r.graph r.states))
    (hc : name ∉ firstsWith t.closes (judged r.graph r.states))
    (hd : ¬(name ∈ t.records ∧ r.verdict? name = none)) :
    (t.follow r).records[name]?.map Violation.since = t.records[name]?.map Violation.since := by
  have hsame : name ∈ t.records ↔ name ∈ (t.follow r).records := by
    refine ⟨fun hbefore => ?_, fun hafter => ?_⟩
    · by_contra hafter
      rcases ended_iff.mpr ⟨hbefore, hafter⟩ with hcleared | hdropped
      · exact hc (mem_firstsWith_closes.mpr hcleared)
      · exact hd hdropped
    · by_contra hbefore
      exact ho (mem_firstsWith_opens.mpr ⟨hbefore, hafter⟩)
  by_cases hbefore : name ∈ t.records
  · exact since_follow hbefore (hsame.mp hbefore)
  · rw [Std.ExtTreeMap.getElem?_eq_none hbefore,
      Std.ExtTreeMap.getElem?_eq_none (mt hsame.mpr hbefore)]

/-- What is opened, cleared and dropped is each reported once. -/
lemma nodup_reported : (firstsWith t.opens (judged r.graph r.states) ++
    firstsWith t.closes (judged r.graph r.states) ++
      t.records.keys.filter fun name => name ∉ (judged r.graph r.states).map (·.1.name)).Nodup := by
  have hopened : (firstsWith t.opens (judged r.graph r.states)).Nodup :=
    nodup_of_ordered firstsWith_inOrder
  have hcleared : (firstsWith t.closes (judged r.graph r.states)).Nodup :=
    nodup_of_ordered firstsWith_inOrder
  refine List.nodup_append'.mpr ⟨List.nodup_append'.mpr ⟨hopened, hcleared, fun name ho hc => ?_⟩,
    Std.ExtTreeMap.nodup_keys.filter _, fun name htold hd => ?_⟩
  · exact (mem_firstsWith_opens.mp ho).1 (mem_firstsWith_closes.mp hc).1
  · obtain ⟨hbefore, hnone⟩ := mem_dropped.mp hd
    rcases List.mem_append.mp htold with ho | hc
    · exact (mem_firstsWith_opens.mp ho).1 hbefore
    · obtain ⟨-, v, hv, -⟩ := mem_firstsWith_closes.mp hc
      rw [hnone] at hv
      cases hv

/-- **The account of a round**: whatever was known before and whatever is told, the violations that
are opened, cleared and dropped are just the difference of those before and after. -/
theorem accounts_update (t : Tracker) (r : Round) :
    r.Accounts t (t.update r.graph r.states r.now).1 (t.update r.graph r.states r.now).2 := by
  rw [outcome_update]
  exact {
    nodup := nodup_reported
    opened_iff := fun _ => mem_firstsWith_opens
    ended_iff := fun _ => (or_congr mem_firstsWith_closes mem_dropped).trans ended_iff
    cleared_iff := fun _ => mem_firstsWith_closes
    dropped_iff := fun _ => mem_dropped
    opened_inOrder := firstsWith_inOrder
    cleared_inOrder := firstsWith_inOrder
    dropped_inOrder := (NameTable.sorted_keys t.records).filter _
    events := by
      refine ⟨t.endingsIn r, history_follow t r, map_ruleName_endingsIn, fun e he => ?_⟩
      obtain ⟨n, -, d, hn, -, -, hd, he⟩ := mem_endings.mp he
      exact ⟨n, d, hn, hd, he.symm⟩
    others := fun _ ho hc hd => since_of_notMem ho hc (mt mem_dropped.mpr hd) }

end Tracker

end SensorRules
