import SensorRules.Home.Basic
import SensorRules.Proofs.Names

/-!
What annotations do to the sensors of a house.

* `Sensor.unannotated`: a sensor without its annotations, which none of them changes;
* `Sensor.getElem?_foldl_annotate`: of several annotations that are written at a sensor, the last of
  each rule stays; to write them once more changes nothing (`foldl_annotate_self`), and if no two
  are of one rule they may be written in any order (`foldl_annotate_perm`);
* `Home.sensor?_modify?`, `Home.sensor?_annotate?`: what is done to one sensor changes no other one;
* `Home.ext_sensor?`: two houses with the same rooms and sensors are equal.
-/

namespace SensorRules

namespace Sensor

variable {as as' : List Annotation} {a b : Annotation}

/-- The sensor without its annotations. -/
def unannotated (x : Sensor) : Sensor :=
  { x with annotations := ∅ }

lemma unannotated_annotate (x : Sensor) (a : Annotation) :
    (x.annotate a).unannotated = x.unannotated := rfl

lemma unannotated_foldl_annotate (x : Sensor) (as : List Annotation) :
    (as.foldl annotate x).unannotated = x.unannotated := by
  induction as generalizing x with
  | nil => rfl
  | cons a as ih => exact (ih (x.annotate a)).trans (x.unannotated_annotate a)

lemma eq_of_unannotated {x y : Sensor} (h : x.unannotated = y.unannotated)
    (hannotations : ∀ name : String, x.annotations[name]? = y.annotations[name]?) : x = y := by
  have htable : x.annotations = y.annotations := Std.ExtTreeMap.ext_getElem? hannotations
  calc x = { x.unannotated with annotations := x.annotations } := rfl
    _ = { y.unannotated with annotations := y.annotations } := by rw [h, htable]
    _ = y := rfl

/-- Annotations of different rules may be written in any order. -/
lemma annotate_comm (x : Sensor) (hne : a.ruleName ≠ b.ruleName) :
    (x.annotate a).annotate b = (x.annotate b).annotate a := by
  refine eq_of_unannotated rfl fun name => ?_
  simp only [annotate, NameTable.getElem?_insert]
  by_cases hb : b.ruleName = name
  · rw [if_pos hb, if_neg fun ha => hne (ha.trans hb.symm), if_pos hb]
  · rw [if_neg hb, if_neg hb]

lemma foldl_annotate_perm (x : Sensor) (h : as.Perm as') (hnodup : (as.map (·.ruleName)).Nodup) :
    as.foldl annotate x = as'.foldl annotate x := by
  refine h.foldl_eq' (fun a ha b hb y => ?_) x
  by_cases heq : a = b
  · rw [heq]
  · exact annotate_comm y fun hname => heq (List.inj_on_of_nodup_map hnodup ha hb hname)

/-- Of several annotations the last one of each rule stays, and for other rules what there was
before. -/
lemma getElem?_foldl_annotate (x : Sensor) (as : List Annotation) (name : String) :
    (as.foldl annotate x).annotations[name]? =
      (as.reverse.find? (·.ruleName == name)).or x.annotations[name]? := by
  induction as generalizing x with
  | nil => rfl
  | cons a as ih =>
      have hfirst : (x.annotate a).annotations[name]? =
          (if a.ruleName = name then some a else none).or x.annotations[name]? := by
        rw [annotate, NameTable.getElem?_insert]
        split <;> rfl
      have hfind : [a].find? (·.ruleName == name) =
          if a.ruleName = name then some a else none := by
        simp [List.find?_singleton]
      rw [List.foldl_cons, ih, hfirst, List.reverse_cons, List.find?_append, hfind,
        Option.or_assoc]

/-- If no two annotations are of one rule, each of them stays. -/
lemma annotations_foldl_annotate (x : Sensor) (hnodup : (as.map (·.ruleName)).Nodup)
    (ha : a ∈ as) : (as.foldl annotate x).annotations[a.ruleName]? = some a := by
  have hsome : (as.reverse.find? (·.ruleName == a.ruleName)).isSome :=
    List.find?_isSome.mpr ⟨a, List.mem_reverse.mpr ha, beq_self_eq_true a.ruleName⟩
  obtain ⟨b, hb⟩ := Option.isSome_iff_exists.mp hsome
  have hmem : b ∈ as := List.mem_reverse.mp (List.mem_of_find?_eq_some hb)
  have hname : b.ruleName = a.ruleName := by simpa using List.find?_some hb
  rw [getElem?_foldl_annotate, hb, List.inj_on_of_nodup_map hnodup hmem ha hname, Option.some_or]

/-- To write annotations once more changes nothing. -/
lemma foldl_annotate_self (x : Sensor) (as : List Annotation) :
    as.foldl annotate (as.foldl annotate x) = as.foldl annotate x := by
  refine eq_of_unannotated (unannotated_foldl_annotate _ as) fun name => ?_
  calc (as.foldl annotate (as.foldl annotate x)).annotations[name]?
      = (as.reverse.find? (·.ruleName == name)).or
          ((as.reverse.find? (·.ruleName == name)).or x.annotations[name]?) := by
        rw [getElem?_foldl_annotate, getElem?_foldl_annotate]
    _ = (as.reverse.find? (·.ruleName == name)).or x.annotations[name]? := by
        rw [← Option.or_assoc, Option.or_self]
    _ = (as.foldl annotate x).annotations[name]? := (getElem?_foldl_annotate x as name).symm

end Sensor

namespace Home

variable {h h' : Home} {sensor name : String} {a : Annotation}

/-- The two houses have the same sensors, but for their annotations. -/
def SameUnannotated (h h' : Home) : Prop :=
  ∀ name, (h.sensor? name).map Sensor.unannotated = (h'.sensor? name).map Sensor.unannotated

/-- There is a sensor of the name. -/
def hasSensor (h : Home) (name : String) : Bool :=
  (h.sensor? name).isSome

lemma SameUnannotated.hasSensor_eq (hsame : h.SameUnannotated h') : h.hasSensor = h'.hasSensor := by
  funext name
  have hsome := congrArg Option.isSome (hsame name)
  rwa [Option.isSome_map, Option.isSome_map] at hsome

/-- Two houses with the same rooms and sensors are equal. -/
lemma ext_sensor? (hrooms : h.rooms = h'.rooms)
    (hsensors : ∀ name, h.sensor? name = h'.sensor? name) : h = h' := by
  have htable : h.sensors = h'.sensors := Std.ExtTreeMap.ext_getElem? hsensors
  cases h
  cases h'
  simp only [Home.mk.injEq]
  exact ⟨hrooms, htable⟩

lemma sensor?_insert (h : Home) (s : Sensor) (name : String) :
    (h.insert s).sensor? name = if s.name = name then some s else h.sensor? name :=
  NameTable.getElem?_insert _ _ _ _

lemma rooms_modify? {change : Sensor → Sensor} (hh : h.modify? sensor change = some h') :
    h'.rooms = h.rooms := by
  obtain ⟨s, -, rfl⟩ := Option.map_eq_some_iff.mp hh
  rfl

/-- A change of one sensor leaves the others as they are. -/
lemma sensor?_modify? {change : Sensor → Sensor} (hh : h.modify? sensor change = some h') :
    h'.sensor? name = if sensor = name then
      (h.sensor? name).map fun s => { change s with name := s.name } else h.sensor? name := by
  obtain ⟨s, hs, rfl⟩ := Option.map_eq_some_iff.mp hh
  have hname : s.name = sensor := h.name_eq sensor s hs
  rw [sensor?_insert]
  by_cases heq : sensor = name
  · rw [if_pos (hname.trans heq), if_pos heq, ← heq, hs]
    rfl
  · rw [if_neg (hname ▸ heq), if_neg heq]

lemma annotate?_eq_none_iff : h.annotate? sensor a = none ↔ h.sensor? sensor = none :=
  Option.map_eq_none_iff

lemma rooms_annotate? (hh : h.annotate? sensor a = some h') : h'.rooms = h.rooms :=
  rooms_modify? hh

lemma sensor?_annotate? (hh : h.annotate? sensor a = some h') : h'.sensor? name =
    if sensor = name then (h.sensor? name).map (·.annotate a) else h.sensor? name :=
  sensor?_modify? hh

end Home

end SensorRules
