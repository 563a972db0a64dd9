import SensorRules.Expression.Kind
import SensorRules.Number.Numeral
import SensorRules.Pattern.Reader

/-!
Expressions of rules. An expression on sensors states a fault: a sensor of which it is true is at
fault.

* `Comparison` and `TextTest`: the operators on numbers and on texts, with their meaning
  `Comparison.holds` and `TextTest.holds`;
* `Call`: a capability by name, with arguments;
* `Expression`: the five forms of expressions;
* `Expression.Error`: why a text is no expression.
-/

namespace SensorRules

open Number (Binary64)

/-- The comparisons of numbers. -/
inductive Comparison where
  | lt
  | le
  | eq
  | ge
  | gt
  | ne
deriving DecidableEq, Repr

namespace Comparison

/-- The sign of a comparison. -/
def sign : Comparison → String
  | lt => "<"
  | le => "<="
  | eq => "=="
  | ge => ">="
  | gt => ">"
  | ne => "!="

/-- The comparison with a sign. -/
def ofSign? : String → Option Comparison
  | "<" => some lt
  | "<=" => some le
  | "==" => some eq
  | ">=" => some ge
  | ">" => some gt
  | "!=" => some ne
  | _ => none

/-- The comparison holds between two numbers. -/
def holds (op : Comparison) (x y : Binary64) : Bool :=
  match op with
  | lt => x.rank < y.rank
  | le => x.rank ≤ y.rank
  | eq => x.rank = y.rank
  | ge => y.rank ≤ x.rank
  | gt => y.rank < x.rank
  | ne => x.rank ≠ y.rank

end Comparison

/-- The tests of a text against a literal. -/
inductive TextTest where
  | equals
  | contains
  | startsWith
  | endsWith
  /-- The whole value matches the pattern. -/
  | fits (p : Pattern)
deriving DecidableEq, Repr

namespace TextTest

/-- The written name of a test. -/
def name : TextTest → String
  | equals => "equals"
  | contains => "contains"
  | startsWith => "startsWith"
  | endsWith => "endsWith"
  | fits _ => "matches"

/-- A text occurs somewhere in another one. -/
def occurs (part : List Char) : List Char → Bool
  | [] => part.isEmpty
  | c :: cs => part.isPrefixOf (c :: cs) || occurs part cs

/-- The test holds of a value and the literal. -/
def holds (test : TextTest) (value literal : String) : Bool :=
  match test with
  | equals => value == literal
  | contains => occurs literal.toList value.toList
  | startsWith => decide (literal.toList <+: value.toList)
  | endsWith => decide (literal.toList <:+ value.toList)
  | fits p => p.occursIn value.toList

end TextTest

/-- A capability by name, asked for with arguments; `negated` takes the opposite answer. -/
structure Call where
  capability : String
  negated : Bool
  args : List String
deriving DecidableEq, Repr

/-- The expression of a rule. -/
inductive Expression where
  /-- Nothing of its own: the preconditions decide. -/
  | aggregate
  /-- Compares the first number in a field with a number. -/
  | numeric (field : String) (op : Comparison) (negated : Bool) (literal : Binary64)
  /-- Tests the text of a field. -/
  | textual (field : String) (test : TextTest) (negated : Bool) (literal : String)
  /-- Asks a capability of each sensor. -/
  | sensorCall (call : Call)
  /-- Asks a capability of the house. -/
  | generalCall (call : Call)
deriving DecidableEq, Repr

namespace Expression

/-- The kind of an expression. -/
def kind : Expression → RuleKind
  | aggregate => .aggregate
  | numeric .. => .numeric
  | textual .. => .regexp
  | sensorCall _ => .sensorPredicate
  | generalCall _ => .generalPredicate

/-- Why a text is no expression. -/
inductive Error where
  /-- The text has none of the forms. -/
  | unknown (text : String)
  /-- A comparison with a literal that holds no number. -/
  | invalidNumber (text literal : String)
  /-- A literal that is no pattern. -/
  | invalidPattern (literal : String)
deriving DecidableEq, Repr

/-- The wording of an error. Of a pattern, only what it is said of is given. -/
def Error.message : Error → String
  | unknown text => "unrecognised expression '" ++ text ++ "'"
  | invalidNumber text literal =>
    "numeric literal '" ++ literal ++ "' in '" ++ text ++ "' is not a number"
  | invalidPattern literal => "invalid pattern '" ++ literal ++ "'"

end Expression

end SensorRules
