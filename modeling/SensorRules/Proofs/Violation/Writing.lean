import SensorRules.Proofs.Violation.Outcome
import SensorRules.Proofs.Violation.Showing

/-!
What the annotations of a pass change in a house.

* `Tracker.rooms_annotate` and `Tracker.sameUnannotated_annotate`: nothing but annotations;
* `Tracker.writings`: the pairs of a rule and a sensor of the house that it names; one annotation is
  written for each (`Tracker.written_annotate`);
* `Tracker.annotate_annotate`: to write all annotations once more changes nothing, and counts as
  many;
* `Tracker.annotate_perm`: the order of the rules does not matter.
-/

namespace SensorRules.Tracker

open Time (Instant)

variable {t t' : Tracker} {g g' : RuleGraph} {states states' : NameTable Verdict} {now : Instant}
  {home home' : Home} {j : RuleNode × Verdict} {state : Home × Nat} {s : String}

/-! ### Rooms and sensors -/

lemma rooms_writeOne : (t.writeOne now j state s).1.rooms = state.1.rooms := by
  rw [writeOne]
  cases hh : state.1.annotate? s (t.annotation j.1.rule j.2 now s) with
  | none => rfl
  | some home => exact Home.rooms_annotate? hh

lemma rooms_writeRule : (t.writeRule now state j).1.rooms = state.1.rooms := by
  rw [writeRule]
  refine List.foldlRecOn (motive := fun (st : Home × Nat) => st.1.rooms = state.1.rooms) _ _ rfl ?_
  intro st hst s _
  exact rooms_writeOne.trans hst

/-- The rooms stay as they are. -/
lemma rooms_annotate : (t.annotate home g states now).1.rooms = home.rooms := by
  rw [annotate]
  refine List.foldlRecOn (motive := fun (st : Home × Nat) => st.1.rooms = home.rooms) _ _ rfl ?_
  intro st hst j _
  exact rooms_writeRule.trans hst

/-- The sensors stay as they are, but for their annotations. -/
lemma sameUnannotated_foldl_writeRule (js : List (RuleNode × Verdict)) :
    (js.foldl (t.writeRule now) state).1.SameUnannotated state.1 := by
  intro s
  rw [sensor?_foldl_writeRule, Option.map_map]
  cases state.1.sensor? s with
  | none => rfl
  | some x => exact congrArg some (Sensor.unannotated_foldl_annotate x _)

lemma sameUnannotated_annotate : (t.annotate home g states now).1.SameUnannotated home :=
  sameUnannotated_foldl_writeRule _

/-! ### The number of annotations -/

/-- The pairs of a rule and a sensor of the house that it names. -/
def writings (home : Home) (rs : List Rule) : List (String × String) :=
  rs.flatMap fun r => (r.sensorNames.toList.filter home.hasSensor).map fun s => (r.name, s)

lemma hasSensor_writeOne : (t.writeOne now j state s).1.hasSensor = state.1.hasSensor := by
  funext x
  rw [Home.hasSensor, Home.hasSensor, sensor?_writeOne]
  split <;> simp

lemma written_writeOne : (t.writeOne now j state s).2 =
    state.2 + if state.1.hasSensor s then 1 else 0 := by
  rw [writeOne]
  cases hh : state.1.annotate? s (t.annotation j.1.rule j.2 now s) with
  | none =>
      rw [Home.annotate?_eq_none_iff] at hh
      simp [Home.hasSensor, hh]
  | some home =>
      have hs : state.1.sensor? s ≠ none := by
        intro hnone
        rw [Home.annotate?_eq_none_iff.mpr hnone] at hh
        cases hh
      have hhas : state.1.hasSensor s = true := Option.isSome_iff_ne_none.mpr hs
      rw [if_pos hhas]

lemma written_foldl_writeOne (xs : List String) : (xs.foldl (t.writeOne now j) state).2 =
    state.2 + (xs.filter state.1.hasSensor).length := by
  induction xs generalizing state with
  | nil => rfl
  | cons x xs ih =>
      rw [List.foldl_cons, ih, hasSensor_writeOne, written_writeOne, List.filter_cons]
      by_cases hx : state.1.hasSensor x
      · rw [if_pos hx, if_pos hx, List.length_cons]
        omega
      · rw [if_neg hx, if_neg hx]
        omega

lemma written_writeRule : (t.writeRule now state j).2 =
    state.2 + (writings state.1 [j.1.rule]).length := by
  rw [writeRule, written_foldl_writeOne, writings, List.flatMap_singleton, List.length_map]

lemma writings_cons (home : Home) (r : Rule) (rs : List Rule) :
    writings home (r :: rs) = writings home [r] ++ writings home rs := by
  rw [writings, writings, writings, List.flatMap_cons, List.flatMap_singleton]

lemma writings_congr (h : home.hasSensor = home'.hasSensor) :
    writings home = writings home' := by
  funext rs
  rw [writings, writings, h]

lemma written_foldl_writeRule (js : List (RuleNode × Verdict)) :
    (js.foldl (t.writeRule now) state).2 =
      state.2 + (writings state.1 (js.map (·.1.rule))).length := by
  induction js generalizing state with
  | nil => rfl
  | cons j js ih =>
      have hhas : (t.writeRule now state j).1.hasSensor = state.1.hasSensor :=
        (sameUnannotated_foldl_writeRule [j]).hasSensor_eq
      rw [List.foldl_cons, ih, written_writeRule, writings_congr hhas, List.map_cons,
        writings_cons state.1 j.1.rule (js.map (·.1.rule)), List.length_append]
      omega

/-- One annotation is written for each pair of a rule with a verdict and a sensor of the house that
it names. -/
lemma written_annotate : (t.annotate home g states now).2 =
    (writings home ((judged g states).map (·.1.rule))).length := by
  rw [annotate, written_foldl_writeRule, Nat.zero_add]

/-! ### The same annotations once more -/

/-- To write all annotations once more changes nothing, and counts as many. -/
theorem annotate_annotate : t.annotate (t.annotate home g states now).1 g states now =
    t.annotate home g states now := by
  refine Prod.ext (Home.ext_sensor? ?_ fun s => ?_) ?_
  · rw [rooms_annotate]
  · rw [sensor?_annotate, sensor?_annotate, Option.map_map]
    refine congrArg (Option.map · (home.sensor? s)) ?_
    funext x
    exact Sensor.foldl_annotate_self x _
  · rw [written_annotate, written_annotate, writings_congr sameUnannotated_annotate.hasSensor_eq]

/-! ### The order of the rules -/

lemma saidAt_judged : t.saidAt now s (judged g states) =
    ((told g states).filter fun j => j.1.sensorNames.contains s).map
      fun j => t.annotation j.1 j.2 now s := by
  rw [saidAt, told, List.filter_map, List.map_map]
  rfl

/-- No two of the annotations at a sensor are of one rule. -/
lemma nodup_saidAt (hg : g.Distinct) :
    ((t.saidAt now s (judged g states)).map (·.ruleName)).Nodup := by
  have hnames : (t.saidAt now s (judged g states)).map (·.ruleName) =
      ((told g states).filter fun j => j.1.sensorNames.contains s).map (·.1.name) := by
    rw [saidAt_judged, List.map_map]
    exact List.map_congr_left fun j _ => annotation_ruleName
  rw [hnames]
  exact (nodup_told hg).sublist (List.filter_sublist.map _)

/-- The annotations are the same in whatever order the verdicts are told. -/
theorem annotate_perm (hg : g.Distinct) (htold : (told g states).Perm (told g' states'))
    (hsaid : t.annotation = t'.annotation) :
    t.annotate home g states now = t'.annotate home g' states' now := by
  refine Prod.ext (Home.ext_sensor? ?_ fun s => ?_) ?_
  · rw [rooms_annotate, rooms_annotate]
  · rw [sensor?_annotate, sensor?_annotate]
    refine congrArg (Option.map · (home.sensor? s)) (funext fun x => ?_)
    refine Sensor.foldl_annotate_perm x ?_ (nodup_saidAt hg)
    rw [saidAt_judged, saidAt_judged, hsaid]
    exact (htold.filter _).map _
  · have hrules : ((judged g states).map (·.1.rule)).Perm
        ((judged g' states').map (·.1.rule)) := by
      have hfst := htold.map Prod.fst
      rwa [told, told, List.map_map, List.map_map] at hfst
    rw [written_annotate, written_annotate]
    exact (hrules.flatMap_right _).length_eq

end SensorRules.Tracker
