/-!
The five kinds of rules, told apart by the form of the rule's expression.

* `RuleKind`, with its written name `RuleKind.name` and the reader `RuleKind.ofName?`;
* `RuleKind.isSensorScoped`: the kinds that judge each of the rule's sensors;
* `RuleKind.isShown`: whether a rule's outcome is tracked and shown.
-/

namespace SensorRules

/-- The kind of a rule. -/
inductive RuleKind where
  /-- Compares the text of a sensor's field. -/
  | regexp
  /-- Compares the first number in a sensor's field. -/
  | numeric
  /-- Asks a capability of the house, once. -/
  | generalPredicate
  /-- Asks a capability of each sensor. -/
  | sensorPredicate
  /-- Asks nothing: only the preconditions count. -/
  | aggregate
deriving DecidableEq, Repr

namespace RuleKind

/-- The written name of a kind. -/
def name : RuleKind → String
  | regexp => "Regexp"
  | numeric => "Numeric"
  | generalPredicate => "GeneralPredicate"
  | sensorPredicate => "SensorPredicate"
  | aggregate => "Meta"

/-- The kind with a written name. -/
def ofName? : String → Option RuleKind
  | "Regexp" => some regexp
  | "Numeric" => some numeric
  | "GeneralPredicate" => some generalPredicate
  | "SensorPredicate" => some sensorPredicate
  | "Meta" => some aggregate
  | _ => none

/-- What is said of a text that names no kind. -/
def unknownMessage (text : String) : String :=
  "unknown rule kind: '" ++ text ++ "'"

/-- Rules of this kind judge each of their sensors. -/
def isSensorScoped : RuleKind → Bool
  | regexp | numeric | sensorPredicate => true
  | generalPredicate | aggregate => false

/-- The outcome of a rule is tracked, listed and noted at sensors, unless the rule is invisible or
only asks a capability of the house. -/
def isShown (kind : RuleKind) (invisible : Bool) : Bool :=
  !invisible && kind != generalPredicate

/-- A kind is read back from its name. -/
theorem ofName?_name (kind : RuleKind) : ofName? kind.name = some kind := by
  cases kind <;> rfl

end RuleKind

end SensorRules
