import SensorRules.Proofs.Graph.Building
import SensorRules.Proofs.Violation.Writing

/-!
All that the annotations of a round change in a house.

* `Round.Speaks`: a rule that is shown and has a verdict names a sensor;
* `Tracker.mem_writings` and `Tracker.nodup_writings`: each pair of such a rule and a sensor of the
  house is written for once;
* `Tracker.annotations_of_speaks` and `Tracker.annotations_of_silent`: a rule that speaks of a
  sensor is heard there in place of what it said before, and what others have said is kept;
* `Tracker.Annotates` and `Tracker.annotates_annotate`: all of this together, and nothing else.
-/

namespace SensorRules

open Time (Instant)

/-- A rule that is shown and has a verdict names a sensor. -/
def Round.Speaks (r : Round) (s : String) (n : RuleNode) (v : Verdict) : Prop :=
  n ∈ r.graph.shown ∧ r.states[n.name]? = some v ∧ s ∈ n.rule.sensorNames

namespace Tracker

variable {t : Tracker} {r : Round} {g : RuleGraph} {states : NameTable Verdict} {now : Instant}
  {home : Home} {x x' : Sensor} {n : RuleNode} {v : Verdict} {rs : List Rule} {s name : String}

lemma speaks_iff_mem_judged :
    r.Speaks s n v ↔ (n, v) ∈ judged r.graph r.states ∧ s ∈ n.rule.sensorNames := by
  simp only [Round.Speaks, Round.mem_judged, RuleGraph.shown, List.mem_filter, and_assoc]

/-! ### What is said at a sensor -/

lemma mem_saidAt {a : Annotation} : a ∈ t.saidAt r.now s (judged r.graph r.states) ↔
    ∃ n v, r.Speaks s n v ∧ t.annotation n.rule v r.now s = a := by
  simp only [saidAt, List.mem_map, List.mem_filter, Prod.exists, speaks_iff_mem_judged,
    Std.ExtTreeSet.contains_iff_mem]

/-- The sensor is there after the annotations, with those that are said at it. -/
lemma eq_of_sensor?_annotate (hx : home.sensor? s = some x)
    (hx' : (t.annotate home g states now).1.sensor? s = some x') :
    x' = (t.saidAt now s (judged g states)).foldl Sensor.annotate x := by
  rw [sensor?_annotate, hx, Option.map_some] at hx'
  exact (Option.some.inj hx').symm

/-- A rule that speaks of a sensor is heard there. -/
lemma annotations_of_speaks (hg : r.graph.Distinct) (hx : home.sensor? s = some x)
    (hx' : (t.annotate home r.graph r.states r.now).1.sensor? s = some x')
    (hspeaks : r.Speaks s n v) :
    x'.annotations[n.name]? = some (t.annotation n.rule v r.now s) := by
  have hsaid : t.annotation n.rule v r.now s ∈ t.saidAt r.now s (judged r.graph r.states) :=
    mem_saidAt.mpr ⟨n, v, hspeaks, rfl⟩
  have hstays := Sensor.annotations_foldl_annotate x (nodup_saidAt hg) hsaid
  rwa [annotation_ruleName, ← eq_of_sensor?_annotate hx hx'] at hstays

/-- What was said under a name under which no rule speaks is kept. -/
lemma annotations_of_silent (hx : home.sensor? s = some x)
    (hx' : (t.annotate home r.graph r.states r.now).1.sensor? s = some x')
    (hsilent : ∀ n v, r.Speaks s n v → n.name ≠ name) :
    x'.annotations[name]? = x.annotations[name]? := by
  have hnone : (t.saidAt r.now s (judged r.graph r.states)).reverse.find?
      (·.ruleName == name) = none := by
    refine List.find?_eq_none.mpr fun a ha hname => ?_
    obtain ⟨n, v, hspeaks, rfl⟩ := mem_saidAt.mp (List.mem_reverse.mp ha)
    rw [annotation_ruleName, beq_iff_eq] at hname
    exact hsilent n v hspeaks hname
  rw [eq_of_sensor?_annotate hx hx', Sensor.getElem?_foldl_annotate, hnone, Option.none_or]

/-! ### What is counted -/

lemma mem_writings : (name, s) ∈ writings home rs ↔
    home.hasSensor s = true ∧ ∃ r ∈ rs, s ∈ r.sensorNames ∧ r.name = name := by
  simp only [writings, List.mem_flatMap, List.mem_map, List.mem_filter, Prod.mk.injEq,
    Std.ExtTreeSet.mem_toList]
  constructor
  · rintro ⟨r, hr, s', ⟨hs', hhome⟩, hname, rfl⟩
    exact ⟨hhome, r, hr, hs', hname⟩
  · rintro ⟨hhome, r, hr, hs, hname⟩
    exact ⟨r, hr, s, ⟨hs, hhome⟩, hname, rfl⟩

/-- If no two rules have one name, no pair comes twice. -/
lemma nodup_writings (hnodup : (rs.map Rule.name).Nodup) : (writings home rs).Nodup := by
  rw [writings, List.nodup_flatMap]
  refine ⟨fun r _ => ?_, ?_⟩
  · have hsensors := (NameSet.nodup_toList r.sensorNames).filter home.hasSensor
    exact hsensors.map fun s s' heq => (Prod.mk.inj heq).2
  · -- pairs with different rules are different
    rw [List.nodup_iff_pairwise_ne, List.pairwise_map] at hnodup
    refine hnodup.imp fun hne p hp hp' => ?_
    obtain ⟨s, -, rfl⟩ := List.mem_map.mp hp
    obtain ⟨s', -, heq⟩ := List.mem_map.mp hp'
    exact hne (Prod.mk.inj heq).1.symm

lemma nodup_writings_judged (hg : g.Distinct) :
    (writings home ((judged g states).map (·.1.rule))).Nodup := by
  refine nodup_writings ?_
  rw [List.map_map]
  exact nodup_judged hg

lemma mem_writings_judged :
    (name, s) ∈ writings home ((judged r.graph r.states).map (·.1.rule)) ↔
      home.hasSensor s = true ∧ ∃ n v, r.Speaks s n v ∧ n.name = name := by
  rw [mem_writings]
  refine and_congr_right fun _ => ⟨?_, ?_⟩
  · rintro ⟨rule, hrule, hs, hname⟩
    obtain ⟨⟨n, v⟩, hj, rfl⟩ := List.mem_map.mp hrule
    exact ⟨n, v, speaks_iff_mem_judged.mpr ⟨hj, hs⟩, hname⟩
  · rintro ⟨n, v, hspeaks, hname⟩
    obtain ⟨hj, hs⟩ := speaks_iff_mem_judged.mp hspeaks
    exact ⟨n.rule, List.mem_map.mpr ⟨(n, v), hj, rfl⟩, hs, hname⟩

end Tracker

/-! ### All that changes -/

/-- The second house is what the annotations of a round make of the first one, and so many of them
are written. -/
structure Tracker.Annotates (t : Tracker) (r : Round) (home home' : Home) (written : Nat) :
    Prop where
  rooms : home'.rooms = home.rooms
  /-- The same sensors are there, and they are the same but for their annotations. -/
  sensors : home'.SameUnannotated home
  /-- A rule that speaks of a sensor is heard there, in place of what it said before. -/
  heard : ∀ s x x', home.sensor? s = some x → home'.sensor? s = some x' →
    ∀ n v, r.Speaks s n v → x'.annotations[n.name]? = some (t.annotation n.rule v r.now s)
  /-- All else that was said is kept. -/
  kept : ∀ s x x', home.sensor? s = some x → home'.sensor? s = some x' →
    ∀ name, (∀ n v, r.Speaks s n v → n.name ≠ name) → x'.annotations[name]? = x.annotations[name]?
  /-- One annotation is written for each pair of a rule and a sensor of the house of which it
  speaks. -/
  counted : ∃ pairs : List (String × String), pairs.Nodup ∧
    (∀ name s, (name, s) ∈ pairs ↔
      home.hasSensor s = true ∧ ∃ n v, r.Speaks s n v ∧ n.name = name) ∧
    written = pairs.length

namespace Tracker

/-- **All that annotations change**: in any house, and by any verdicts on the rules of a graph that
is built, each rule that speaks of a sensor of the house is heard there once under its name, and
nothing else changes. -/
theorem annotates_annotate (t : Tracker) (rs : List Rule) (states : NameTable Verdict)
    (now : Instant) (home : Home) :
    t.Annotates ⟨.ofRules rs, states, now⟩ home (t.annotate home (.ofRules rs) states now).1
      (t.annotate home (.ofRules rs) states now).2 where
  rooms := rooms_annotate
  sensors := sameUnannotated_annotate
  heard _ _ _ hx hx' _ _ := annotations_of_speaks (r := ⟨.ofRules rs, states, now⟩)
    RuleGraph.distinct_ofRules hx hx'
  kept _ _ _ hx hx' _ := annotations_of_silent (r := ⟨.ofRules rs, states, now⟩) hx hx'
  counted := ⟨_, nodup_writings_judged RuleGraph.distinct_ofRules,
    fun _ _ => mem_writings_judged (r := ⟨.ofRules rs, states, now⟩), written_annotate⟩

end Tracker

end SensorRules
