import SensorRules.Proofs.Verdict

/-!
Verdicts sensor by sensor.

* `Expression.Decides`: on its own data a sensor has the fault that an expression states, or has it
  not; `Expression.Undecided`: its data do not decide that. Of the two, just one is the case
  (`fault?_eq_some_iff`, `fault?_eq_none_iff`);
* `Expression.clears_iff`, `Expression.clears_eq_false_iff`: a name meets the expression if the
  sensor is in the house and decided to have no fault, and is at fault in all other cases;
* `Expression.judge_sensorwise`: so the verdict on a set of sensors divides it, and a sensor is
  where it would be if it were judged alone.
-/

namespace SensorRules.Expression

variable {registry : Registry} {context : Context} {setting : Setting} {e : Expression} {s : Sensor}
  {b : Bool} {names names' : NameSet} {name : String}

/-! ### The fault at one sensor -/

/-- On its own data, a sensor has the fault that an expression states, or has it not. -/
inductive Decides (registry : Registry) (context : Context) (s : Sensor) : Expression → Bool → Prop
  | numeric {field text : String} {op : Comparison} {negated : Bool}
      {literal value : Number.Binary64} :
      s.field? field = some text → Number.firstNumber text = some value →
      Decides registry context s (.numeric field op negated literal)
        (op.holds value literal != negated)
  | textual {field text literal : String} {test : TextTest} {negated : Bool} :
      s.field? field = some text →
      Decides registry context s (.textual field test negated literal)
        (test.holds text literal != negated)
  | sensorCall {call : Call} {answer : Bool} :
      registry.askSensor call.capability context s call.args = .ok answer →
      Decides registry context s (.sensorCall call) (answer != call.negated)

/-- The data of a sensor do not decide whether it has the fault that an expression states. -/
inductive Undecided (registry : Registry) (context : Context) (s : Sensor) : Expression → Prop
  | noValue {field : String} {op : Comparison} {negated : Bool} {literal : Number.Binary64} :
      s.field? field = none → Undecided registry context s (.numeric field op negated literal)
  | noNumber {field text : String} {op : Comparison} {negated : Bool}
      {literal : Number.Binary64} :
      s.field? field = some text → Number.firstNumber text = none →
      Undecided registry context s (.numeric field op negated literal)
  | noText {field literal : String} {test : TextTest} {negated : Bool} :
      s.field? field = none → Undecided registry context s (.textual field test negated literal)
  | noAnswer {call : Call} {error : Capability.Error} :
      registry.askSensor call.capability context s call.args = .error error →
      Undecided registry context s (.sensorCall call)

lemma fault?_of_decides (h : e.Decides setting.registry setting.context s b) :
    e.fault? setting s = some b := by
  cases h with
  | numeric htext hvalue => simp [fault?, htext, hvalue]
  | textual htext => simp [fault?, htext]
  | sensorCall hanswer => simp [fault?, hanswer]

lemma fault?_of_undecided (h : e.Undecided setting.registry setting.context s) :
    e.fault? setting s = none := by
  cases h with
  | noValue hnone => simp [fault?, hnone]
  | noNumber htext hnone => simp [fault?, htext, hnone]
  | noText hnone => simp [fault?, hnone]
  | noAnswer herror => simp [fault?, herror]

/-- The data of a sensor decide whether it has the fault, or they do not. -/
lemma decides_or_undecided (he : e.kind.isSensorScoped = true) (registry : Registry)
    (context : Context) (s : Sensor) :
    (∃ b, e.Decides registry context s b) ∨ e.Undecided registry context s := by
  cases e with
  | aggregate => cases he
  | generalCall call => cases he
  | numeric field op negated literal =>
      cases htext : s.field? field with
      | none => exact .inr (.noValue htext)
      | some text =>
          cases hvalue : Number.firstNumber text with
          | none => exact .inr (.noNumber htext hvalue)
          | some value => exact .inl ⟨_, .numeric htext hvalue⟩
  | textual field test negated literal =>
      cases htext : s.field? field with
      | none => exact .inr (.noText htext)
      | some text => exact .inl ⟨_, .textual htext⟩
  | sensorCall call =>
      cases hanswer : registry.askSensor call.capability context s call.args with
      | error error => exact .inr (.noAnswer hanswer)
      | ok answer => exact .inl ⟨_, .sensorCall hanswer⟩

lemma fault?_eq_some_iff (he : e.kind.isSensorScoped = true) :
    e.fault? setting s = some b ↔ e.Decides setting.registry setting.context s b := by
  refine ⟨fun h => ?_, fault?_of_decides⟩
  rcases decides_or_undecided he setting.registry setting.context s with ⟨b', hb'⟩ | hnone
  · have heq : some b' = some b := (fault?_of_decides hb').symm.trans h
    exact Option.some.inj heq ▸ hb'
  · rw [fault?_of_undecided hnone] at h
    cases h

lemma fault?_eq_none_iff (he : e.kind.isSensorScoped = true) :
    e.fault? setting s = none ↔ e.Undecided setting.registry setting.context s := by
  refine ⟨fun h => ?_, fault?_of_undecided⟩
  rcases decides_or_undecided he setting.registry setting.context s with ⟨b, hb⟩ | hnone
  · rw [fault?_of_decides hb] at h
    cases h
  · exact hnone

/-! ### The verdict on a name -/

/-- A name meets the expression if its sensor is decided to have no fault. -/
lemma clears_iff (he : e.kind.isSensorScoped = true) : e.clears setting name = true ↔
    ∃ s, setting.home.sensor? name = some s ∧
      e.Decides setting.registry setting.context s false := by
  rw [clears, beq_iff_eq, Option.bind_eq_some_iff]
  exact exists_congr fun s => and_congr_right fun _ => fault?_eq_some_iff he

/-- A name is at fault if it has no sensor, if its sensor is decided to have the fault, and if that
cannot be decided. -/
lemma clears_eq_false_iff (he : e.kind.isSensorScoped = true) : e.clears setting name = false ↔
    setting.home.sensor? name = none ∨ ∃ s, setting.home.sensor? name = some s ∧
      (e.Decides setting.registry setting.context s true ∨
        e.Undecided setting.registry setting.context s) := by
  cases hs : setting.home.sensor? name with
  | none => simp [clears, hs]
  | some s =>
      have hfault : e.clears setting name = false ↔
          e.fault? setting s = some true ∨ e.fault? setting s = none := by
        rw [clears, hs, Option.bind_some, beq_eq_false_iff_ne]
        cases e.fault? setting s with
        | none => simp
        | some b => cases b <;> simp
      rw [hfault, fault?_eq_some_iff he, fault?_eq_none_iff he]
      simp

/-! ### The verdict on a set of names -/

lemma judge_eq_judgeSensors (he : e.kind.isSensorScoped = true) :
    e.judge setting names = e.judgeSensors setting names := by
  cases e with
  | aggregate => cases he
  | generalCall call => cases he
  | numeric field op negated literal => rfl
  | textual field test negated literal => rfl
  | sensorCall call => rfl

lemma union_judgeSensors : (e.judgeSensors setting names).okSensors.union
    (e.judgeSensors setting names).violatedSensors = names := by
  refine Std.ExtTreeSet.ext_mem fun name => ?_
  rw [NameSet.mem_union, mem_okSensors, mem_violatedSensors]
  cases e.clears setting name <;> simp

lemma ok_judgeSensors_iff : (e.judgeSensors setting names).ok = true ↔
    names ≠ ∅ ∧ (e.judgeSensors setting names).violatedSensors = ∅ := by
  have hok : (e.judgeSensors setting names).ok = true ↔
      (e.judgeSensors setting names).violatedSensors = ∅ ∧
        (e.judgeSensors setting names).okSensors ≠ ∅ := by
    simp [judgeSensors, Verdict.ofSensors]
  rw [hok, and_comm]
  refine and_congr_left fun hnone => not_congr ?_
  -- With nobody at fault, those that meet the expression are all.
  have hall : (e.judgeSensors setting names).okSensors = names := by
    refine Std.ExtTreeSet.ext_mem fun name => ?_
    have hmem : name ∈ (e.judgeSensors setting names).okSensors.union
        (e.judgeSensors setting names).violatedSensors ↔ name ∈ names := by
      rw [union_judgeSensors]
    rw [NameSet.mem_union, hnone] at hmem
    simpa using hmem
  rw [hall]

lemma okSensors_judgeSensors_union :
    (e.judgeSensors setting (names.union names')).okSensors =
      (e.judgeSensors setting names).okSensors.union (e.judgeSensors setting names').okSensors := by
  refine Std.ExtTreeSet.ext_mem fun name => ?_
  simp only [NameSet.mem_union, mem_okSensors, or_and_right]

lemma violatedSensors_judgeSensors_union :
    (e.judgeSensors setting (names.union names')).violatedSensors =
      (e.judgeSensors setting names).violatedSensors.union
        (e.judgeSensors setting names').violatedSensors := by
  refine Std.ExtTreeSet.ext_mem fun name => ?_
  simp only [NameSet.mem_union, mem_violatedSensors, or_and_right]

/-- **Verdicts sensor by sensor.** An expression on sensors divides every set of names into those
that meet it and those at fault. A name meets it just if it has a sensor that is decided to have no
fault; so a name without a sensor, and one whose sensor cannot be decided, is at fault. The rule is
met if there is a name and none is at fault. The verdict on two sets together is made of the
verdicts on each. -/
theorem judge_sensorwise (e : Expression) (he : e.kind.isSensorScoped = true) (setting : Setting)
    (names : NameSet) :
    (∀ name ∈ (e.judge setting names).okSensors,
      name ∉ (e.judge setting names).violatedSensors) ∧
    (e.judge setting names).okSensors.union (e.judge setting names).violatedSensors = names ∧
    (∀ name, name ∈ (e.judge setting names).okSensors ↔ name ∈ names ∧
      ∃ s, setting.home.sensor? name = some s ∧
        e.Decides setting.registry setting.context s false) ∧
    (∀ name, name ∈ (e.judge setting names).violatedSensors ↔ name ∈ names ∧
      (setting.home.sensor? name = none ∨ ∃ s, setting.home.sensor? name = some s ∧
        (e.Decides setting.registry setting.context s true ∨
          e.Undecided setting.registry setting.context s))) ∧
    ((e.judge setting names).ok = true ↔
      names ≠ ∅ ∧ (e.judge setting names).violatedSensors = ∅) ∧
    ∀ names', (e.judge setting (names.union names')).okSensors =
        (e.judge setting names).okSensors.union (e.judge setting names').okSensors ∧
      (e.judge setting (names.union names')).violatedSensors =
        (e.judge setting names).violatedSensors.union
          (e.judge setting names').violatedSensors := by
  simp only [judge_eq_judgeSensors he]
  refine ⟨divides_judgeSensors.disjoint, union_judgeSensors, fun name => ?_, fun name => ?_,
    ok_judgeSensors_iff, fun names' =>
      ⟨okSensors_judgeSensors_union, violatedSensors_judgeSensors_union⟩⟩
  · rw [mem_okSensors, clears_iff he]
  · rw [mem_violatedSensors, clears_eq_false_iff he]

/-- A battery below 25 is the fault. -/
def batteryLow : Expression :=
  .numeric "battery" .lt false (.ofDecimal false 25 0)

/-- A house in which the battery of one sensor is known and that of another one is not. -/
def batterySetting : Setting where
  home := (Home.empty.insert ((Sensor.named "Hall").setField "battery" "80")).insert
    (Sensor.named "Loft")
  registry := .empty
  context := ⟨.epoch, 0, .standard⟩

/-- The verdict on the two sensors and on one that is not in the house. -/
def batteryVerdict : Verdict :=
  batteryLow.judge batterySetting (NameSet.ofNames ["Hall", "Loft", "Attic"])

/-- The sensor with a good battery meets the rule; the one that does not report its battery and the
one that is not there are at fault. -/
theorem judge_sensorwise_battery : batteryLow.kind.isSensorScoped = true ∧
    "Hall" ∈ batteryVerdict.okSensors ∧ "Loft" ∈ batteryVerdict.violatedSensors ∧
      "Attic" ∈ batteryVerdict.violatedSensors ∧ batteryVerdict.ok = false := by
  obtain ⟨-, -, hok, hviolated, hmet, -⟩ := judge_sensorwise batteryLow rfl batterySetting
    (NameSet.ofNames ["Hall", "Loft", "Attic"])
  have hhall : batteryLow.Decides .empty ⟨.epoch, 0, .standard⟩
      ((Sensor.named "Hall").setField "battery" "80") false := by
    have hvalue : Number.firstNumber "80" = some (.ofDecimal false 80 0) := by decide +kernel
    have hfalse : (Comparison.lt.holds (.ofDecimal false 80 0) (.ofDecimal false 25 0) != false) =
        false := by decide +kernel
    rw [← hfalse]
    exact .numeric (by decide) hvalue
  have hloft : "Loft" ∈ batteryVerdict.violatedSensors := by
    refine (hviolated "Loft").mpr ⟨by decide, .inr ⟨Sensor.named "Loft", by decide +kernel, ?_⟩⟩
    exact .inr (.noValue rfl)
  refine ⟨rfl, ?_, hloft, ?_, ?_⟩
  · exact (hok "Hall").mpr ⟨by decide, _, by decide +kernel, hhall⟩
  · exact (hviolated "Attic").mpr ⟨by decide, .inl (by decide +kernel)⟩
  · rw [Bool.eq_false_iff]
    intro h
    have hnone := (hmet.mp h).2
    exact Std.ExtTreeSet.not_mem_empty (hnone ▸ hloft)

end SensorRules.Expression
