import SensorRules.Proofs.Json.Record
import SensorRules.Proofs.Json.Value
import SensorRules.Rule.Document

/-!
Documents that are written and read again.

* `RuleDocument.InRange`: a document whose priority is a number of 64 bits, as in every document
  that is read (`RuleDocument.inRange_of_listOfText?`);
* `RuleDocument.ofJson?_toJson`: such a document is decoded from its own record;
* `RuleDocument.listOfText?_listToText`: and so are lists of them from their own text.
-/

namespace SensorRules

namespace RuleDocument

variable {α : Type} {r : Record} {position : Nat} {spellings : List String} {default a : α}
  {decode : Json → Option α} {v : Json} {d : RuleDocument} {ds : List RuleDocument} {s : String}

/-- The priority is a number of 64 bits with a sign. -/
def InRange (d : RuleDocument) : Prop :=
  -((Number.word64 / 2 : Nat) : Int) ≤ d.priority ∧ d.priority < (Number.word64 / 2 : Nat)

/-! ### Records -/

/-- A field that is there is decoded. -/
lemma field_eq_some (hfield : r.field? position spellings = some (some v))
    (hnull : decode .null = none) (h : decode v = some a) :
    field r position spellings default decode = some a :=
  Record.optional_eq_some hfield (Json.orNull_eq_some hnull h)

/-- The fields of a record are decoded as the parts of a document. -/
structure DecodedFrom (d : RuleDocument) (r : Record) : Prop where
  name : field r 0 ["Name"] "" Json.text? = some d.name
  expression : field r 1 ["Expression"] "" Json.text? = some d.expression
  sensorNames : field r 2 ["SensorNames"] [] (Json.listOf? Json.text?) = some d.sensorNames
  viewPermissions :
    field r 3 ["ViewPermissions"] [] (Json.listOf? Json.text?) = some d.viewPermissions
  requiredTrueRules :
    field r 4 ["RequiredTrueRules"] [] (Json.listOf? Json.text?) = some d.requiredTrueRules
  requiredFalseRules : field r 5 ["RequiredFalseRules", "OrRules"] [] (Json.listOf? Json.text?) =
    some d.requiredFalseRules
  okMessage : field r 6 ["OkMessage"] "" Json.text? = some d.okMessage
  errorMessages : field r 7 ["ErrorMessages"] ∅ (Json.tableOf? Json.text?) = some d.errorMessages
  escalation :
    field r 8 ["Escalation"] ∅ (Json.tableOf? (Json.listOf? Json.text?)) = some d.escalation
  invisible : field r 9 ["Invisible"] false Json.bool? = some d.invisible
  relatedFileLogs :
    field r 10 ["RelatedFileLogs"] [] (Json.listOf? Json.text?) = some d.relatedFileLogs
  priority : field r 11 ["Priority"] 0 (Json.intWithin? (Number.word64 / 2)) = some d.priority

/-- A value is decoded field by field. -/
lemma ofJson?_eq_some_iff :
    ofJson? v = some d ↔ ∃ r, v.record? 12 = some r ∧ d.DecodedFrom r := by
  constructor
  · intro h
    obtain ⟨r, hr, h⟩ := Option.bind_eq_some_iff.mp h
    obtain ⟨_, name, h⟩ := Option.bind_eq_some_iff.mp h
    obtain ⟨_, expression, h⟩ := Option.bind_eq_some_iff.mp h
    obtain ⟨_, sensorNames, h⟩ := Option.bind_eq_some_iff.mp h
    obtain ⟨_, viewPermissions, h⟩ := Option.bind_eq_some_iff.mp h
    obtain ⟨_, requiredTrueRules, h⟩ := Option.bind_eq_some_iff.mp h
    obtain ⟨_, requiredFalseRules, h⟩ := Option.bind_eq_some_iff.mp h
    obtain ⟨_, okMessage, h⟩ := Option.bind_eq_some_iff.mp h
    obtain ⟨_, errorMessages, h⟩ := Option.bind_eq_some_iff.mp h
    obtain ⟨_, escalation, h⟩ := Option.bind_eq_some_iff.mp h
    obtain ⟨_, invisible, h⟩ := Option.bind_eq_some_iff.mp h
    obtain ⟨_, relatedFileLogs, h⟩ := Option.bind_eq_some_iff.mp h
    obtain ⟨_, priority, h⟩ := Option.bind_eq_some_iff.mp h
    cases h
    exact ⟨r, hr, ⟨name, expression, sensorNames, viewPermissions, requiredTrueRules,
      requiredFalseRules, okMessage, errorMessages, escalation, invisible, relatedFileLogs,
      priority⟩⟩
  · rintro ⟨r, hr, h⟩
    rw [ofJson?, hr]
    simp only [Option.bind_eq_bind, Option.bind_some, h.name, h.expression, h.sensorNames,
      h.viewPermissions, h.requiredTrueRules, h.requiredFalseRules, h.okMessage, h.errorMessages,
      h.escalation, h.invisible, h.relatedFileLogs, h.priority]

/-- A document is decoded from its own record. -/
lemma ofJson?_toJson (h : d.InRange) : ofJson? d.toJson = some d := by
  have hmessages := Json.tableOf?_object Json.text? .text (fun _ => rfl) d.errorMessages
  have hgroups := Json.tableOf?_object (Json.listOf? Json.text?) .texts
    (fun _ => Json.texts?_texts) d.escalation
  refine ofJson?_eq_some_iff.mpr ⟨_, Json.record?_object, ?_⟩
  exact {
    name := field_eq_some rfl rfl rfl
    expression := field_eq_some rfl rfl rfl
    sensorNames := field_eq_some rfl rfl Json.texts?_texts
    viewPermissions := field_eq_some rfl rfl Json.texts?_texts
    requiredTrueRules := field_eq_some rfl rfl Json.texts?_texts
    requiredFalseRules := field_eq_some rfl rfl Json.texts?_texts
    okMessage := field_eq_some rfl rfl rfl
    errorMessages := field_eq_some rfl rfl hmessages
    escalation := field_eq_some rfl rfl hgroups
    invisible := field_eq_some rfl rfl rfl
    relatedFileLogs := field_eq_some rfl rfl Json.texts?_texts
    priority := field_eq_some rfl rfl (if_pos h) }

/-- What a field is decoded as is its default or decoded from a value. -/
lemma eq_default_or_of_field (h : field r position spellings default decode = some a) :
    a = default ∨ ∃ v, decode v = some a := by
  rw [field, Record.optional] at h
  split at h
  next v _ => exact (Json.eq_default_or_of_orNull h).imp_right fun hv => ⟨v, hv⟩
  next => exact .inl (Option.some.inj h).symm
  next => cases h

/-- The priority of a document that is decoded is a number of 64 bits. -/
lemma inRange_of_ofJson? (h : ofJson? v = some d) : d.InRange := by
  obtain ⟨r, -, hd⟩ := ofJson?_eq_some_iff.mp h
  rcases eq_default_or_of_field hd.priority with hzero | ⟨v, hv⟩
  · rw [InRange, hzero]
    decide
  · exact Json.within_of_intWithin? hv

/-! ### Texts -/

/-- A record can be read as it is written. -/
lemma plain_toJson : d.toJson.Plain := by
  refine .object ?_
  simp only [List.forall_mem_cons]
  exact ⟨.text _, .text _, .texts, .texts, .texts, .texts, .text _, .table .text,
    .table fun _ => .texts, .bool _, .texts, .int _, nofun⟩

/-- Documents are read from their own text. -/
lemma listOfText?_listToText (h : ∀ d ∈ ds, d.InRange) :
    listOfText? (listToText ds) = some ds := by
  have hplain : (Json.arr (ds.map toJson)).Plain := .list fun _ => plain_toJson
  rw [listOfText?, listToText, Json.read?_toText hplain, Option.bind_some]
  exact Json.listOf?_arr fun d hd => ofJson?_toJson (h d hd)

/-- The priorities of documents that are read are numbers of 64 bits. -/
lemma inRange_of_listOfText? (h : listOfText? s = some ds) : ∀ d ∈ ds, d.InRange := by
  intro d hd
  obtain ⟨v, -, hv⟩ := Option.bind_eq_some_iff.mp h
  obtain ⟨item, hitem⟩ := Json.exists_of_mem_listOf? hv hd
  exact inRange_of_ofJson? hitem

end RuleDocument

end SensorRules
