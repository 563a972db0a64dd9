import SensorRules.Json.Printer
import SensorRules.Json.Reader
import SensorRules.Json.Record
import SensorRules.Rule.Basic

/-!
The written form of rules. A document has a field for each part of a rule, all of which may be
missing; seconds are keys of its tables.

* `RuleDocument`, with `RuleDocument.ofJson?` and `RuleDocument.toJson`;
* `Rule.ofDocument`: the rule of a document; its name and expression are trimmed, and a reference to
  the rule itself is left out;
* `Rule.toDocument`: the document of a rule.
-/

namespace SensorRules

/-- A rule as written. -/
structure RuleDocument where
  name : String
  expression : String
  sensorNames : List String
  viewPermissions : List String
  requiredTrueRules : List String
  requiredFalseRules : List String
  okMessage : String
  errorMessages : NameTable String
  escalation : NameTable (List String)
  invisible : Bool
  relatedFileLogs : List String
  priority : Int
deriving DecidableEq

namespace RuleDocument

/-- A field of a document that may be missing or `null`. -/
def field {α : Type} (r : Record) (position : Nat) (spellings : List String) (default : α)
    (decode : Json → Option α) : Option α :=
  r.optional position spellings default (Json.orNull default decode)

/-- A document from its record. -/
def ofJson? (v : Json) : Option RuleDocument := do
  let texts := Json.listOf? Json.text?
  let r ← v.record? 12
  let name ← field r 0 ["Name"] "" Json.text?
  let expression ← field r 1 ["Expression"] "" Json.text?
  let sensorNames ← field r 2 ["SensorNames"] [] texts
  let viewPermissions ← field r 3 ["ViewPermissions"] [] texts
  let requiredTrueRules ← field r 4 ["RequiredTrueRules"] [] texts
  let requiredFalseRules ← field r 5 ["RequiredFalseRules", "OrRules"] [] texts
  let okMessage ← field r 6 ["OkMessage"] "" Json.text?
  let errorMessages ← field r 7 ["ErrorMessages"] ∅ (Json.tableOf? Json.text?)
  let escalation ← field r 8 ["Escalation"] ∅ (Json.tableOf? texts)
  let invisible ← field r 9 ["Invisible"] false Json.bool?
  let relatedFileLogs ← field r 10 ["RelatedFileLogs"] [] texts
  let priority ← field r 11 ["Priority"] 0 (Json.intWithin? (Number.word64 / 2))
  some {
    name, expression, sensorNames, viewPermissions, requiredTrueRules, requiredFalseRules,
    okMessage, errorMessages, escalation, invisible, relatedFileLogs, priority }

/-- The record of a document. -/
def toJson (d : RuleDocument) : Json :=
  .object [
    ("Name", .text d.name),
    ("Expression", .text d.expression),
    ("SensorNames", .texts d.sensorNames),
    ("ViewPermissions", .texts d.viewPermissions),
    ("RequiredTrueRules", .texts d.requiredTrueRules),
    ("RequiredFalseRules", .texts d.requiredFalseRules),
    ("OkMessage", .text d.okMessage),
    ("ErrorMessages", .object (d.errorMessages.toList.map fun e => (e.1, .text e.2))),
    ("Escalation", .object (d.escalation.toList.map fun e => (e.1, .texts e.2))),
    ("Invisible", .bool d.invisible),
    ("RelatedFileLogs", .texts d.relatedFileLogs),
    ("Priority", .int d.priority)]

/-- The documents in a text. -/
def listOfText? (s : String) : Option (List RuleDocument) :=
  (Json.read? s).bind (Json.listOf? ofJson?)

/-- Documents as a text. -/
def listToText (ds : List RuleDocument) : String :=
  (Json.arr (ds.map toJson)).toText

end RuleDocument

namespace Rule

/-- The number of seconds that a key writes, with blanks around it or not. -/
def seconds (rule table key : String) : Except Error Nat :=
  match Number.unsigned? Number.word64 (Text.trim key) with
  | some n => .ok n
  | none => .error (.notSeconds rule table key)

/-- The entries of a table by their seconds, in the order of the keys as written. -/
def readKeys {α : Type} (rule table : String) (entries : NameTable α) :
    Except Error (List (Nat × α)) :=
  entries.toList.mapM fun e => do return (← seconds rule table e.1, e.2)

/-- The names of other rules. -/
def others (rule : String) (names : List String) : NameSet :=
  NameSet.ofNames (names.filter (· != rule))

/-- The levels with the given messages and groups; of two at the same seconds the later counts. -/
def levelsOf (messages : List (Nat × String)) (groups : List (Nat × List String)) : Levels :=
  let levels := messages.foldl (fun levels e => levels.setMessage e.1 e.2) ∅
  groups.foldl (fun levels e => levels.setGroups e.1 (NameSet.ofNames e.2)) levels

/-- The rule of a document. -/
def ofDocument (d : RuleDocument) : Except Error Rule := do
  let name := Text.trim d.name
  if name = "" then throw .blankName
  let messages ← readKeys name "ErrorMessages" d.errorMessages
  let groups ← readKeys name "Escalation" d.escalation
  return {
    name
    expression := Text.trim d.expression
    sensorNames := NameSet.ofNames d.sensorNames
    viewPermissions := NameSet.ofNames d.viewPermissions
    requiredTrue := others name d.requiredTrueRules
    orRules := others name d.requiredFalseRules
    okMessage := d.okMessage
    levels := levelsOf messages groups
    invisible := d.invisible
    priority := d.priority
    relatedLogs := NameSet.ofNames d.relatedFileLogs }

/-- A number of seconds as a key. -/
def key (seconds : Nat) : String :=
  String.ofList (Number.toDigits seconds)

/-- The document of a rule. -/
def toDocument (r : Rule) : RuleDocument where
  name := r.name
  expression := r.expression
  sensorNames := r.sensorNames.toList
  viewPermissions := r.viewPermissions.toList
  requiredTrueRules := r.requiredTrue.toList
  requiredFalseRules := r.orRules.toList
  okMessage := r.okMessage
  errorMessages := Std.ExtTreeMap.ofList (r.levels.messages.map fun e => (key e.1, e.2))
  escalation := Std.ExtTreeMap.ofList (r.levels.groups.map fun e => (key e.1, e.2.toList))
  invisible := r.invisible
  relatedFileLogs := r.relatedLogs.toList
  priority := r.priority

end Rule

end SensorRules
