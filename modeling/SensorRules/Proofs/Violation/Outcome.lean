import SensorRules.Proofs.Graph.Session
import SensorRules.Proofs.Violation.Update

/-!
Which violations a round opens, clears and drops.

* `Tracker.told`: what the tracker is told, without the places of the rules in the graph;
* `Tracker.opens` and `Tracker.closes`: by a verdict on its rule, a violation begins or ends;
* `Tracker.firstsWith`: the names whose verdicts have a property, each where it comes first;
* `Tracker.outcome_update`: a round opens and clears the violations of just the rules whose verdicts
  do so, in the order of the rules, and drops those of rules that it is told nothing of;
* `Tracker.records_follow_perm` and `Tracker.outcome_update_perm`: if the same is told in another
  order, the violations afterwards are the same, and so is the outcome but for the order.
-/

namespace SensorRules

open Time (Instant)

/-- The same is opened and cleared in some order, and the same is dropped. -/
structure Outcome.Alike (o o' : Outcome) : Prop where
  opened : o.opened.Perm o'.opened
  cleared : o.cleared.Perm o'.cleared
  dropped : o.dropped = o'.dropped

namespace Tracker

variable {t t' : Tracker} {g g' : RuleGraph} {states states' : NameTable Verdict} {now : Instant}
  {outcome : Outcome} {js : List (RuleNode × Verdict)} {j : RuleNode × Verdict} {name : String}
  {v : Verdict} {p : String → Verdict → Bool}

/-! ### What is told -/

/-- The rules that are shown and have a verdict, with it, wherever they stand in the graph. -/
def told (g : RuleGraph) (states : NameTable Verdict) : List (Rule × Verdict) :=
  (judged g states).map fun j => (j.1.rule, j.2)

lemma names_told :
    (told g states).map (·.1.name) = (judged g states).map (·.1.name) := by
  rw [told, List.map_map]
  rfl

/-- No rule is told of twice. -/
lemma nodup_judged (hg : g.Distinct) : ((judged g states).map (·.1.name)).Nodup := by
  rw [RuleGraph.Distinct, List.nodup_iff_pairwise_ne, List.pairwise_map] at hg
  rw [List.nodup_iff_pairwise_ne, List.pairwise_map, judged, RuleGraph.shown,
    List.pairwise_filterMap]
  refine (hg.filter _).imp fun hne j hj j' hj' => ?_
  obtain ⟨v, -, rfl⟩ := Option.map_eq_some_iff.mp hj
  obtain ⟨v', -, rfl⟩ := Option.map_eq_some_iff.mp hj'
  exact hne

lemma nodup_told (hg : g.Distinct) : ((told g states).map (·.1.name)).Nodup := by
  rw [names_told]
  exact nodup_judged hg

/-! ### What is opened and cleared -/

/-- The violation of a rule begins with a verdict on it: there is none, and the rule is not met. -/
def opens (t : Tracker) (name : String) (v : Verdict) : Bool :=
  !v.ok && t.records[name]?.isNone

/-- The violation of a rule ends with a verdict on it: there is one, and the rule is met. -/
def closes (t : Tracker) (name : String) (v : Verdict) : Bool :=
  v.ok && t.records[name]?.isSome

lemma opens_iff : t.opens name v = true ↔ v.ok = false ∧ name ∉ t.records := by
  rw [opens, Bool.and_eq_true, Bool.not_eq_true', Option.isNone_iff_eq_none,
    ← Option.not_isSome_iff_eq_none, Std.ExtTreeMap.isSome_getElem?_iff_mem]

lemma closes_iff : t.closes name v = true ↔ v.ok = true ∧ name ∈ t.records := by
  rw [closes, Bool.and_eq_true, Std.ExtTreeMap.isSome_getElem?_iff_mem]

/-- The names among verdicts on rules that have a property. -/
def namesWith (p : String → Verdict → Bool) (js : List (RuleNode × Verdict)) : List String :=
  (js.filter fun j => p j.1.name j.2).map (·.1.name)

lemma namesWith_concat (p : String → Verdict → Bool) (j : RuleNode × Verdict) :
    namesWith p (js ++ [j]) = namesWith p js ++ if p j.1.name j.2 then [j.1.name] else [] := by
  rw [namesWith, namesWith, List.filter_append, List.map_append, List.filter_singleton]
  cases p j.1.name j.2 <;> rfl

lemma outcome_observe (now : Instant) (state : Tracker × Outcome) (j : RuleNode × Verdict) :
    (observe now state j).2 =
      { state.2 with
        opened := state.2.opened ++ if state.1.opens j.1.name j.2 then [j.1.name] else []
        cleared := state.2.cleared ++ if state.1.closes j.1.name j.2 then [j.1.name] else [] } := by
  obtain ⟨t, outcome⟩ := state
  obtain ⟨n, v⟩ := j
  cases hok : v.ok <;> cases hold : t.records[n.name]? <;>
    simp [observe, opens, closes, hok, hold]

/-! ### Several verdicts on one rule -/

/-- Verdicts on rules of one name are one verdict. -/
def OneVerdict (js : List (RuleNode × Verdict)) : Prop :=
  ∀ j ∈ js, ∀ j' ∈ js, j.1.name = j'.1.name → j.2 = j'.2

lemma OneVerdict.sublist {js' : List (RuleNode × Verdict)} (h : OneVerdict js')
    (hsub : js.Sublist js') : OneVerdict js :=
  fun j hj j' hj' => h j (hsub.subset hj) j' (hsub.subset hj')

lemma oneVerdict_judged (r : Round) : OneVerdict (judged r.graph r.states) := by
  intro j hj j' hj' hname
  have hv := Round.verdict?_of_mem_judged hj
  rw [hname, Round.verdict?_of_mem_judged hj'] at hv
  exact (Option.some.inj hv).symm

/-- The names with a property among verdicts on rules, each where it comes first. -/
def firstsWith (p : String → Verdict → Bool) (js : List (RuleNode × Verdict)) : List String :=
  (namesWith p js).eraseDups

lemma mem_firstsWith :
    name ∈ firstsWith p js ↔ ∃ j ∈ js, p j.1.name j.2 = true ∧ j.1.name = name := by
  rw [firstsWith, List.mem_eraseDups, namesWith, List.mem_map]
  simp only [List.mem_filter, and_assoc]

/-- A name comes in if it has the property and is not told of before. -/
lemma firstsWith_concat (hone : OneVerdict (js ++ [j])) : firstsWith p (js ++ [j]) =
    firstsWith p js ++
      if j.1.name ∉ js.map (·.1.name) ∧ p j.1.name j.2 = true then [j.1.name] else [] := by
  rw [firstsWith, namesWith_concat, List.eraseDups_append, ← firstsWith]
  congr 1
  cases hp : p j.1.name j.2 with
  | false => simp
  | true =>
      have hmem : j.1.name ∈ namesWith p js ↔ j.1.name ∈ js.map (·.1.name) := by
        rw [← List.mem_eraseDups, ← firstsWith, mem_firstsWith, List.mem_map]
        refine exists_congr fun j' => and_congr_right fun hj' => ?_
        refine and_iff_right_of_imp fun hname => ?_
        rw [hname, hone j' (List.mem_append_left _ hj') j (by simp) hname, hp]
      by_cases hname : j.1.name ∈ js.map (·.1.name)
      · simp [List.removeAll, hmem.mpr hname, hname]
      · simp [List.removeAll, mt hmem.mp hname, hname, List.eraseDups_cons]

/-- If no rule is told of twice, every name comes first where it comes. -/
lemma firstsWith_of_nodup (h : (js.map (·.1.name)).Nodup) :
    firstsWith p js = namesWith p js := by
  have hnodup : (namesWith p js).Nodup := h.sublist (List.filter_sublist.map _)
  rw [firstsWith]
  generalize namesWith p js = names at hnodup ⊢
  induction names with
  | nil => rfl
  | cons name names ih =>
      obtain ⟨hname, hnames⟩ := List.nodup_cons.mp hnodup
      have hothers : names.filter (fun other => !other == name) = names :=
        List.filter_eq_self.mpr fun other hother => by
          simpa using ne_of_mem_of_not_mem hother hname
      rw [List.eraseDups_cons, hothers, ih hnames]

/-- After verdicts on some rules, one more verdict begins or ends a violation as it would by itself
if nothing was told of its rule, and otherwise it does not. -/
lemma changes_foldl_observe (now : Instant) (state : Tracker × Outcome)
    (hone : OneVerdict (js ++ [j])) :
    ((js.foldl (observe now) state).1.opens j.1.name j.2 = true ↔
      j.1.name ∉ js.map (·.1.name) ∧ state.1.opens j.1.name j.2 = true) ∧
    ((js.foldl (observe now) state).1.closes j.1.name j.2 = true ↔
      j.1.name ∉ js.map (·.1.name) ∧ state.1.closes j.1.name j.2 = true) := by
  have hsame : ∀ j' ∈ js, j'.1.name = j.1.name → j'.2 = j.2 :=
    fun j' hj' => hone j' (List.mem_append_left _ hj') j (by simp)
  simp only [opens, closes, records_foldl_observe hsame]
  by_cases hname : j.1.name ∈ js.map (·.1.name)
  · -- the same verdict has been taken note of
    cases hok : j.2.ok <;> simp [hname, Violation.next?, hok]
  · simp only [hname, if_false, not_false_iff, true_and, and_self]

/-- On the way through verdicts, a violation begins or ends where the name of its rule comes first,
and never again. -/
lemma outcome_foldl_observe (hone : OneVerdict js) : (js.foldl (observe now) (t, .none)).2 =
    ⟨firstsWith t.opens js, firstsWith t.closes js, []⟩ := by
  induction js using List.reverseRecOn with
  | nil => rfl
  | append_singleton js j ih =>
      have hbefore := ih (hone.sublist (List.sublist_append_left js [j]))
      obtain ⟨hopens, hcloses⟩ := changes_foldl_observe now (t, .none) hone
      simp only [List.foldl_concat, outcome_observe, hbefore, hopens, hcloses,
        firstsWith_concat hone]

/-! ### A whole round -/

lemma records_foldl_observe_of_notMem (h : name ∉ js.map (·.1.name)) :
    (js.foldl (observe now) (t, outcome)).1.records[name]? = t.records[name]? := by
  have hnone : ∀ j ∈ js, j.1.name = name → j.2 = Verdict.passed :=
    fun j hj hname => absurd (List.mem_map.mpr ⟨j, hj, hname⟩) h
  rw [records_foldl_observe hnone, if_neg h]

/-- What is dropped after verdicts on some rules are the violations of others before them. -/
lemma dropped_keepOnly : (keepOnly (NameSet.ofNames (js.map (·.1.name)))
      (js.foldl (observe now) (t, outcome))).2.dropped =
    t.records.keys.filter fun name => name ∉ js.map (·.1.name) := by
  have hother : ∀ name, (!(NameSet.ofNames (js.map (·.1.name))).contains name) =
      decide (name ∉ js.map (·.1.name)) := by
    intro name
    rw [NameSet.contains_ofNames, decide_not]
  simp only [keepOnly, hother]
  rw [← NameTable.keys_filter, ← NameTable.keys_filter]
  refine congrArg Std.ExtTreeMap.keys (Std.ExtTreeMap.ext_getElem? fun name => ?_)
  rw [Std.ExtTreeMap.getElem?_filter', Std.ExtTreeMap.getElem?_filter']
  by_cases hname : name ∈ js.map (·.1.name)
  · simp [hname]
  · rw [records_foldl_observe_of_notMem hname]

/-- **What a round does**: it opens and clears the violations of just the rules whose verdicts do so
by themselves, in the order of the rules, and drops those of which it is told nothing, in the order
of their names. -/
theorem outcome_update : (t.update g states now).2 =
    ⟨firstsWith t.opens (judged g states), firstsWith t.closes (judged g states),
      t.records.keys.filter fun name => name ∉ (judged g states).map (·.1.name)⟩ := by
  let state := (judged g states).foldl (observe now) (t, .none)
  let names := NameSet.ofNames ((judged g states).map (·.1.name))
  have hfold : state.2 =
      ⟨firstsWith t.opens (judged g states), firstsWith t.closes (judged g states), []⟩ :=
    outcome_foldl_observe (oneVerdict_judged ⟨g, states, now⟩)
  calc (t.update g states now).2
      = { state.2 with dropped := (keepOnly names state).2.dropped } := rfl
    _ = _ := by rw [hfold, dropped_keepOnly]

/-! ### The order of the rules -/

lemma namesWith_judged (p : String → Verdict → Bool) : namesWith p (judged g states) =
    ((told g states).filter fun j => p j.1.name j.2).map (·.1.name) := by
  rw [namesWith, told, List.filter_map, List.map_map]
  rfl

lemma namesWith_perm (htold : (told g states).Perm (told g' states'))
    (p : String → Verdict → Bool) :
    (namesWith p (judged g states)).Perm (namesWith p (judged g' states')) := by
  rw [namesWith_judged, namesWith_judged]
  exact (htold.filter _).map _

/-- If the same is told in another order, the outcome is the same but for the order. -/
theorem outcome_update_perm (hg : g.Distinct) (hg' : g'.Distinct)
    (htold : (told g states).Perm (told g' states')) (hrecords : t.records = t'.records) :
    (t.update g states now).2.Alike (t'.update g' states' now).2 := by
  have hopens : t.opens = t'.opens := by
    funext name v
    rw [opens, opens, hrecords]
  have hcloses : t.closes = t'.closes := by
    funext name v
    rw [closes, closes, hrecords]
  have hnames : ∀ name, name ∈ (judged g states).map (·.1.name) ↔
      name ∈ (judged g' states').map (·.1.name) := by
    intro name
    rw [← names_told, ← names_told]
    exact (htold.map (·.1.name)).mem_iff
  rw [outcome_update, outcome_update, hopens, hcloses, hrecords]
  simp only [firstsWith_of_nodup (nodup_judged hg), firstsWith_of_nodup (nodup_judged hg')]
  refine ⟨namesWith_perm htold _, namesWith_perm htold _, List.filter_congr fun name _ => ?_⟩
  exact decide_eq_decide.mpr (not_congr (hnames name))

/-- What is learnt of a rule is what is told of it. -/
lemma verdict?_eq_some_iff_told {r : Round} : r.verdict? name = some v ↔
    ∃ rule, (rule, v) ∈ told r.graph r.states ∧ rule.name = name := by
  constructor
  · intro hv
    obtain ⟨⟨n, hn, rfl, hshown⟩, hstate⟩ := Round.verdict?_eq_some_iff.mp hv
    have hjudged : (n, v) ∈ judged r.graph r.states := Round.mem_judged.mpr ⟨⟨hn, hshown⟩, hstate⟩
    exact ⟨n.rule, List.mem_map.mpr ⟨(n, v), hjudged, rfl⟩, rfl⟩
  · rintro ⟨rule, htold, rfl⟩
    obtain ⟨j, hj, heq⟩ := List.mem_map.mp htold
    obtain ⟨rfl, rfl⟩ := Prod.mk.inj heq
    exact Round.verdict?_of_mem_judged hj

/-- If the same is told in another order, the violations afterwards are the same. -/
theorem records_follow_perm {r r' : Round}
    (htold : (told r.graph r.states).Perm (told r'.graph r'.states)) (hnow : r.now = r'.now)
    (hrecords : t.records = t'.records) : (t.follow r).records = (t'.follow r').records := by
  have hverdict : ∀ name, r.verdict? name = r'.verdict? name := by
    intro name
    refine Option.ext fun v => ?_
    rw [verdict?_eq_some_iff_told, verdict?_eq_some_iff_told]
    exact exists_congr fun rule => and_congr_left fun _ => htold.mem_iff
  refine Std.ExtTreeMap.ext_getElem? fun name => ?_
  rw [records_follow, records_follow, hverdict, hrecords, hnow]

end Tracker

end SensorRules
