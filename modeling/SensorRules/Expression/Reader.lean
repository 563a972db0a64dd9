import SensorRules.Expression.Basic
import SensorRules.Text.Letter

/-!
The written form of expressions. A text is a list of words between blanks, and only the words count:

* no word at all is `Expression.aggregate`;
* `field op literal` is numeric or textual as its operator says;
* `Sensor capability args...` and `Predicate capability args...` ask a capability.

An operator or a capability may be negated, by the word `not` before it or by `not` written together
with it. The forms are tried in this order. Which literals are patterns is up to the engine that
compiles them.

* `splitNot`: an operator without the `not` at its beginning;
* `call?`: a capability with its arguments;
* `Expression.read`: the expression of a text.
-/

namespace SensorRules

open Text (sameLetters)

/-- Takes `not`, in any case, off the beginning of an operator, unless nothing would be left. -/
def splitNot (op : String) : Bool × String :=
  match op.toList with
  | a :: b :: c :: d :: rest =>
    if sameLetters (String.ofList [a, b, c]) "not" then (true, String.ofList (d :: rest))
    else (false, op)
  | _ => (false, op)

/-- Takes `not` off a capability written together with it, as `notLow` for `low`: an upper-case
letter of ASCII must follow. -/
def splitFusedNot? (name : String) : Option String :=
  match name.toList with
  | 'n' :: 'o' :: 't' :: c :: rest =>
    if c.isUpper then some (String.ofList (c.toLower :: rest)) else none
  | _ => none

/-- A capability and its arguments, with the word `not` before it or fused to it. -/
def call? : List String → Option Call
  | [] => none
  | first :: rest =>
    if sameLetters first "not" then
      match rest with
      | [] => none
      | name :: args => some ⟨name, true, args⟩
    else
      match splitFusedNot? first with
      | some name => some ⟨name, true, rest⟩
      | none => some ⟨first, false, rest⟩

/-- A test of texts by the name of its operator, in any case; a pattern is read at once. -/
def TextTest.read [Pattern.Compiler] (op literal : String) :
    Except Expression.Error (Option TextTest) :=
  match Text.lowercase op with
  | "equals" => .ok (some .equals)
  | "contains" => .ok (some .contains)
  | "startswith" => .ok (some .startsWith)
  | "endswith" => .ok (some .endsWith)
  | "matches" =>
    match Pattern.wholeValue? literal with
    | some p => .ok (some (.fits p))
    | none => .error (.invalidPattern literal)
  | _ => .ok none

namespace Expression

/-- The field, operator and literal of words in the form of a comparison; the word `not` joins the
operator after it. -/
def operands? : List String → Option (String × String × String)
  | [field, op, literal] => some (field, op, literal)
  | [field, word, op, literal] =>
    if sameLetters word "not" then some (field, "not" ++ op, literal) else none
  | _ => none

/-- A comparison or test, if the operator is one; `text` is quoted in errors. -/
def comparison [Pattern.Compiler] (text field op literal : String) :
    Except Error (Option Expression) :=
  let (negated, bare) := splitNot op
  match Comparison.ofSign? bare with
  | some op =>
    match Number.firstNumber literal with
    | some value => .ok (some (.numeric field op negated value))
    | none => .error (.invalidNumber text literal)
  | none =>
    match TextTest.read bare literal with
    | .ok test => .ok (test.map fun test => .textual field test negated literal)
    | .error e => .error e

/-- A question to a capability, by its first word. -/
def question? : List String → Option Expression
  | "Sensor" :: rest => (call? rest).map .sensorCall
  | "Predicate" :: rest => (call? rest).map .generalCall
  | _ => none

/-- The expression with the given words; `text` is quoted in errors. -/
def ofWords [Pattern.Compiler] (text : String) (words : List String) : Except Error Expression :=
  if words.isEmpty then .ok .aggregate
  else
    let compared := match operands? words with
      | some (field, op, literal) => comparison text field op literal
      | none => .ok none
    match compared with
    | .error e => .error e
    | .ok (some e) => .ok e
    | .ok none =>
      match question? words with
      | some e => .ok e
      | none => .error (.unknown text)

/-- The expression that a text writes. -/
def read [Pattern.Compiler] (text : String) : Except Error Expression :=
  ofWords text (Text.words text)

end Expression

end SensorRules
