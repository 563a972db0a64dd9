import SensorRules.Proofs.Capability.Asking
import SensorRules.Proofs.Expression.Judging

/-!
The same expression with the opposite sign.

* `Capability.Unanswered`: the ways in which a question has no answer;
* `Expression.negate`: the expression that differs in its sign only;
* `Expression.UndecidedAt`: the ways in which an expression cannot be decided at a name. The sign
  has no part in them (`undecidedAt_negate`), and it turns round what is decided
  (`finding?_negate`);
* `Expression.judge_negate`: so the two verdicts on a set of sensors mirror each other but for the
  sensors that cannot be decided, which are at fault under both; and of the two answers to a
  question to the house just one is yes, if there is an answer.
-/

namespace SensorRules

/-- Two verdicts on the same sensors mirror each other, but for the sensors that are not decided:
these are at fault under both. -/
structure Verdict.Mirrors (v v' : Verdict) (names : NameSet) (undecided : String → Prop) :
    Prop where
  /-- A sensor meets the first rule just if it is decided and at fault under the second. -/
  ok_iff : ∀ name, name ∈ v.okSensors ↔ ¬ undecided name ∧ name ∈ v'.violatedSensors
  /-- It is the same the other way round. -/
  ok_negated_iff : ∀ name, name ∈ v'.okSensors ↔ ¬ undecided name ∧ name ∈ v.violatedSensors
  /-- No sensor meets both rules. -/
  disjoint : ∀ name, name ∈ v.okSensors → name ∉ v'.okSensors
  /-- The sensors at fault under both are those that are not decided. -/
  both_violated_iff : ∀ name,
    name ∈ v.violatedSensors ∧ name ∈ v'.violatedSensors ↔ name ∈ names ∧ undecided name

/-! ### Questions without an answer -/

namespace Capability

variable {α : Type} {table : NameTable (Capability α)} {name : String} {ctx : Context} {x : α}
  {args : List String}

/-- A question has no answer. -/
inductive Unanswered (table : NameTable (Capability α)) (name : String) (ctx : Context) (x : α)
    (args : List String) : Prop
  /-- There is no capability of the name. -/
  | unknown : table[name]? = none → Unanswered table name ctx x args
  /-- The capability does not take so many arguments. -/
  | arity {c : Capability α} : table[name]? = some c → ¬ c.arity.Accepts args.length →
      Unanswered table name ctx x args
  /-- The capability itself fails. -/
  | failed {c : Capability α} {error : Error} (h : c.arity.Accepts args.length) :
      table[name]? = some c → c.run ctx x args h = .error error →
      Unanswered table name ctx x args

lemma exists_error_iff_unanswered :
    (∃ error, ask table name ctx x args = .error error) ↔ Unanswered table name ctx x args := by
  cases hc : table[name]? with
  | none => exact ⟨fun _ => .unknown hc, fun _ => ⟨_, ask_of_none hc⟩⟩
  | some c =>
      by_cases h : c.arity.Accepts args.length
      · rw [ask_of_accepts hc h]
        cases hrun : c.run ctx x args h with
        | error e => exact ⟨fun _ => .failed h hc hrun, fun _ => ⟨_, rfl⟩⟩
        | ok answer =>
            refine ⟨fun ⟨_, he⟩ => (nomatch he), fun hnone => ?_⟩
            cases hnone with
            | unknown hc' => simp [hc] at hc'
            | arity hc' h' =>
                obtain rfl := Option.some.inj (hc.symm.trans hc')
                exact absurd h h'
            | failed h' hc' hrun' =>
                obtain rfl := Option.some.inj (hc.symm.trans hc')
                exact nomatch hrun.symm.trans hrun'
      · exact ⟨fun _ => .arity hc h, fun _ => ⟨_, ask_of_not_accepts hc h⟩⟩

end Capability

namespace Expression

variable {setting : Setting} {e : Expression} {names : NameSet} {name : String} {call : Call}

/-! ### The opposite sign -/

/-- The expression with the opposite sign. An expression that asks nothing has none. -/
def negate : Expression → Expression
  | aggregate => aggregate
  | numeric field op negated literal => numeric field op (!negated) literal
  | textual field test negated literal => textual field test (!negated) literal
  | sensorCall call => sensorCall { call with negated := !call.negated }
  | generalCall call => generalCall { call with negated := !call.negated }

@[simp] lemma kind_negate : e.negate.kind = e.kind := by
  cases e <;> rfl

/-- The expression cannot be decided at a name. -/
inductive UndecidedAt (setting : Setting) (name : String) : Expression → Prop
  /-- The sensor is not in the house. -/
  | absent {e : Expression} : setting.home.sensor? name = none → UndecidedAt setting name e
  /-- The field to be compared with a number is missing. -/
  | noValue {s : Sensor} {field : String} {op : Comparison} {negated : Bool}
      {literal : Number.Binary64} :
      setting.home.sensor? name = some s → s.field? field = none →
      UndecidedAt setting name (.numeric field op negated literal)
  /-- There is no number in the field. -/
  | noNumber {s : Sensor} {field text : String} {op : Comparison} {negated : Bool}
      {literal : Number.Binary64} :
      setting.home.sensor? name = some s → s.field? field = some text →
      Number.firstNumber text = none →
      UndecidedAt setting name (.numeric field op negated literal)
  /-- The field to be tested is missing. -/
  | noText {s : Sensor} {field literal : String} {test : TextTest} {negated : Bool} :
      setting.home.sensor? name = some s → s.field? field = none →
      UndecidedAt setting name (.textual field test negated literal)
  /-- The question to the sensor has no answer. -/
  | noAnswer {s : Sensor} {call : Call} :
      setting.home.sensor? name = some s →
      Capability.Unanswered setting.registry.sensor call.capability setting.context s call.args →
      UndecidedAt setting name (.sensorCall call)

lemma undecidedAt_iff : e.UndecidedAt setting name ↔ setting.home.sensor? name = none ∨
    ∃ s, setting.home.sensor? name = some s ∧ e.Undecided setting.registry setting.context s := by
  constructor
  · intro h
    cases h with
    | absent hs => exact .inl hs
    | noValue hs hnone => exact .inr ⟨_, hs, .noValue hnone⟩
    | noNumber hs htext hnone => exact .inr ⟨_, hs, .noNumber htext hnone⟩
    | noText hs hnone => exact .inr ⟨_, hs, .noText hnone⟩
    | noAnswer hs hnone =>
        obtain ⟨error, herror⟩ := Capability.exists_error_iff_unanswered.mpr hnone
        exact .inr ⟨_, hs, .noAnswer herror⟩
  · rintro (hs | ⟨s, hs, h⟩)
    · exact .absent hs
    · cases h with
      | noValue hnone => exact .noValue hs hnone
      | noNumber htext hnone => exact .noNumber hs htext hnone
      | noText hnone => exact .noText hs hnone
      | noAnswer herror =>
          exact .noAnswer hs (Capability.exists_error_iff_unanswered.mp ⟨_, herror⟩)

/-- The sign has no part in whether the expression can be decided. -/
lemma UndecidedAt.negate (h : e.UndecidedAt setting name) : e.negate.UndecidedAt setting name := by
  cases h with
  | absent hs => exact .absent hs
  | noValue hs hnone => exact .noValue hs hnone
  | noNumber hs htext hnone => exact .noNumber hs htext hnone
  | noText hs hnone => exact .noText hs hnone
  | noAnswer hs hnone => exact .noAnswer hs hnone

lemma negate_negate : e.negate.negate = e := by
  cases e <;> simp [negate]

lemma undecidedAt_negate : e.negate.UndecidedAt setting name ↔ e.UndecidedAt setting name := by
  refine ⟨fun h => ?_, UndecidedAt.negate⟩
  rw [← negate_negate (e := e)]
  exact h.negate

/-! ### Verdicts on sensors -/

/-- Whether the expression is true of the sensor with a name, if it is in the house and that can be
decided. -/
def finding? (e : Expression) (setting : Setting) (name : String) : Option Bool :=
  (setting.home.sensor? name).bind (e.fault? setting)

lemma clears_eq : e.clears setting name = (e.finding? setting name == some false) := rfl

lemma fault?_negate (he : e.kind.isSensorScoped = true) (s : Sensor) :
    e.negate.fault? setting s = (e.fault? setting s).map not := by
  cases e with
  | aggregate => cases he
  | generalCall call => cases he
  | numeric field op negated literal =>
      rw [negate, fault?, fault?]
      cases (s.field? field).bind Number.firstNumber with
      | none => rfl
      | some value => simp
  | textual field test negated literal =>
      rw [negate, fault?, fault?]
      cases s.field? field with
      | none => rfl
      | some value => simp
  | sensorCall call =>
      rw [negate, fault?, fault?]
      cases setting.registry.askSensor call.capability setting.context s call.args with
      | error error => rfl
      | ok answer => simp

/-- The opposite sign turns round what is decided, and nothing else. -/
lemma finding?_negate (he : e.kind.isSensorScoped = true) :
    e.negate.finding? setting name = (e.finding? setting name).map not := by
  rw [finding?, finding?, funext (fault?_negate he)]
  cases setting.home.sensor? name <;> rfl

lemma finding?_eq_none_iff (he : e.kind.isSensorScoped = true) :
    e.finding? setting name = none ↔ e.UndecidedAt setting name := by
  rw [undecidedAt_iff, finding?]
  cases setting.home.sensor? name with
  | none => simp
  | some s => simp [fault?_eq_none_iff he]

lemma mem_okSensors_iff (he : e.kind.isSensorScoped = true) :
    name ∈ (e.judge setting names).okSensors ↔
      name ∈ names ∧ e.finding? setting name = some false := by
  rw [judge_eq_judgeSensors he, mem_okSensors, clears_eq, beq_iff_eq]

lemma mem_violatedSensors_iff (he : e.kind.isSensorScoped = true) :
    name ∈ (e.judge setting names).violatedSensors ↔
      name ∈ names ∧ e.finding? setting name ≠ some false := by
  rw [judge_eq_judgeSensors he, mem_violatedSensors, clears_eq, beq_eq_false_iff_ne]

/-- On sensors the opposite expression has the mirrored verdict. -/
lemma mirrors_judge_negate (he : e.kind.isSensorScoped = true) (setting : Setting)
    (names : NameSet) : (e.judge setting names).Mirrors (e.negate.judge setting names) names
      (e.UndecidedAt setting) := by
  have he' : e.negate.kind.isSensorScoped = true := by rwa [kind_negate]
  -- All four sets are described by the finding at each name, which is one of three.
  constructor
  all_goals
    intro name
    simp only [mem_okSensors_iff he, mem_okSensors_iff he', mem_violatedSensors_iff he,
      mem_violatedSensors_iff he', finding?_negate he, ← finding?_eq_none_iff he]
    rcases e.finding? setting name with _ | _ | _ <;> simp

/-! ### Verdicts on the house -/

lemma ok_judge_of_answer {answer : Bool} (names : NameSet) (negated : Bool)
    (h : setting.registry.askGeneral call.capability setting.context call.args = .ok answer) :
    ((generalCall { call with negated }).judge setting names).ok = (answer != negated) := by
  simp only [judge, h]
  cases answer != negated <;> rfl

lemma ok_judge_of_error {error : Capability.Error} (names : NameSet) (negated : Bool)
    (h : setting.registry.askGeneral call.capability setting.context call.args = .error error) :
    ((generalCall { call with negated }).judge setting names).ok = false := by
  simp only [judge, h]
  rfl

/-- If the house has an answer, just one of a question and its opposite is met; if not, neither
is. -/
lemma judge_negate_generalCall (call : Call) (setting : Setting) (names : NameSet) :
    (∃ answer, setting.registry.askGeneral call.capability setting.context call.args =
        .ok answer) ∧
      ((generalCall call).negate.judge setting names).ok =
        !((generalCall call).judge setting names).ok ∨
    Capability.Unanswered setting.registry.general call.capability setting.context () call.args ∧
      ((generalCall call).judge setting names).ok = false ∧
      ((generalCall call).negate.judge setting names).ok = false := by
  cases h : setting.registry.askGeneral call.capability setting.context call.args with
  | ok answer =>
      have hok := ok_judge_of_answer names call.negated h
      have hnot := ok_judge_of_answer names (!call.negated) h
      refine .inl ⟨⟨answer, rfl⟩, ?_⟩
      rw [negate, hok, hnot]
      cases answer <;> simp
  | error error =>
      refine .inr ⟨Capability.exists_error_iff_unanswered.mp ⟨error, h⟩, ?_⟩
      exact ⟨ok_judge_of_error names call.negated h, ok_judge_of_error names (!call.negated) h⟩

/-! ### The two verdicts -/

/-- **The opposite sign turns round what is decided, and nothing else.** For an expression on
sensors, a sensor meets one of the two rules just if it is decided and at fault under the other, and
the sensors at fault under both are those that cannot be decided, which are the same for both. For a
question to the house just one of the two rules is met if there is an answer, and neither if there
is none. -/
theorem judge_negate (e : Expression) (setting : Setting) (names : NameSet) :
    (e.kind.isSensorScoped = true →
      (e.judge setting names).Mirrors (e.negate.judge setting names) names
        (e.UndecidedAt setting) ∧
      ∀ name, e.negate.UndecidedAt setting name ↔ e.UndecidedAt setting name) ∧
    ∀ call, e = .generalCall call →
      (∃ answer, setting.registry.askGeneral call.capability setting.context call.args =
          .ok answer) ∧
        (e.negate.judge setting names).ok = !(e.judge setting names).ok ∨
      Capability.Unanswered setting.registry.general call.capability setting.context ()
          call.args ∧
        (e.judge setting names).ok = false ∧ (e.negate.judge setting names).ok = false := by
  refine ⟨fun he => ⟨mirrors_judge_negate he setting names, fun _ => undecidedAt_negate⟩, ?_⟩
  rintro call rfl
  exact judge_negate_generalCall call setting names

/-- An open window is the fault. -/
def windowOpen : Expression :=
  .textual "STATE" .equals false "open"

/-- A house with an open window in the hall, a closed one in the cellar and one in the loft that
does not report. -/
def windowSetting : Setting where
  home := ((Home.empty.insert ((Sensor.named "Hall").setField "STATE" "open")).insert
    ((Sensor.named "Cellar").setField "STATE" "closed")).insert (Sensor.named "Loft")
  registry := .standard
  context := ⟨.epoch, 0, .standard⟩

/-- The windows of the house and one that is not there. -/
def windowNames : NameSet :=
  NameSet.ofNames ["Hall", "Cellar", "Loft", "Attic"]

/-- A question to the house. -/
def askHouse (capability : String) : Expression :=
  .generalCall ⟨capability, false, []⟩

/-- The sign decides which of the windows in the hall and the cellar is at fault; those in the loft
and in the attic are at fault either way. The house knows about weekends, so one of the two
questions is met, but not about holidays, so neither is. -/
theorem judge_negate_window : windowOpen.kind.isSensorScoped = true ∧
    "Cellar" ∈ (windowOpen.judge windowSetting windowNames).okSensors ∧
    "Hall" ∈ (windowOpen.negate.judge windowSetting windowNames).okSensors ∧
    (∀ name ∈ ["Loft", "Attic"],
      name ∈ (windowOpen.judge windowSetting windowNames).violatedSensors ∧
      name ∈ (windowOpen.negate.judge windowSetting windowNames).violatedSensors) ∧
    ((askHouse "isWeekend").negate.judge windowSetting windowNames).ok = true ∧
    ((askHouse "isHoliday").negate.judge windowSetting windowNames).ok = false := by
  obtain ⟨hmirrors, -⟩ := (judge_negate windowOpen windowSetting windowNames).1 rfl
  have hcellar : ¬ windowOpen.UndecidedAt windowSetting "Cellar" := by
    rw [← finding?_eq_none_iff rfl]
    decide +kernel
  have hhall : ¬ windowOpen.UndecidedAt windowSetting "Hall" := by
    rw [← finding?_eq_none_iff rfl]
    decide +kernel
  have hloft : windowOpen.UndecidedAt windowSetting "Loft" :=
    .noText (s := Sensor.named "Loft") (by decide +kernel) rfl
  refine ⟨rfl, ?_, ?_, ?_, ?_, ?_⟩
  · exact (hmirrors.ok_iff "Cellar").mpr ⟨hcellar, by decide +kernel⟩
  · exact (hmirrors.ok_negated_iff "Hall").mpr ⟨hhall, by decide +kernel⟩
  · intro name hname
    refine (hmirrors.both_violated_iff name).mpr ?_
    rcases List.mem_pair.mp hname with rfl | rfl
    · exact ⟨by decide, hloft⟩
    · exact ⟨by decide, .absent (by decide +kernel)⟩
  · have hanswer : windowSetting.registry.askGeneral "isWeekend" windowSetting.context [] =
        .ok false := by decide +kernel
    rcases (judge_negate (askHouse "isWeekend") windowSetting windowNames).2 _ rfl with h | h
    · rw [h.2]
      decide +kernel
    · obtain ⟨error, herror⟩ := Capability.exists_error_iff_unanswered.mpr h.1
      exact nomatch hanswer.symm.trans herror
  · have hnone : windowSetting.registry.askGeneral "isHoliday" windowSetting.context [] =
        .error (.unknown "isHoliday") := by decide +kernel
    rcases (judge_negate (askHouse "isHoliday") windowSetting windowNames).2 _ rfl with h | h
    · obtain ⟨answer, hanswer⟩ := h.1
      exact nomatch hnone.symm.trans hanswer
    · exact h.2.2

end Expression

end SensorRules
