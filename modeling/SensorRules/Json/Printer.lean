import SensorRules.Json.Basic
import SensorRules.Number.Whole

/-!
The written form of JSON values: one item or member a line, two blanks for each level; arrays and
objects without content on one line. Only quotes, backslashes and control characters are escaped.

* `Json.quoted`: a string;
* `Json.pretty`: a value at a level;
* `Json.toText`: a value as a text of its own.
-/

namespace SensorRules.Json

/-- The hexadecimal digit with a value below sixteen. -/
def hexChar (n : Nat) : Char :=
  Char.ofNat (if n < 10 then '0'.toNat + n else 'a'.toNat + (n - 10))

/-- A character within a string. -/
def escape (c : Char) : List Char :=
  match c with
  | '"' => ['\\', '"']
  | '\\' => ['\\', '\\']
  | '\x08' => ['\\', 'b']
  | '\x0C' => ['\\', 'f']
  | '\n' => ['\\', 'n']
  | '\r' => ['\\', 'r']
  | '\t' => ['\\', 't']
  | c =>
    if c.toNat < 0x20 then ['\\', 'u', '0', '0', hexChar (c.toNat / 16), hexChar (c.toNat % 16)]
    else [c]

/-- A string between quotes. -/
def quoted (cs : List Char) : List Char :=
  '"' :: cs.flatMap escape ++ ['"']

/-- The end of a line and the blanks before the next one. -/
def newline (level : Nat) : List Char :=
  '\n' :: List.replicate (2 * level) ' '

/-- A whole number. -/
def intText (n : Int) : List Char :=
  if n < 0 then '-' :: Number.toDigits n.natAbs else Number.toDigits n.natAbs

mutual

/-- A value whose first line begins at the given level. -/
def pretty (level : Nat) : Json → List Char
  | null => "null".toList
  | bool b => if b then "true".toList else "false".toList
  | int n => intText n
  | real literal => literal.toList
  | str s => quoted (s.getD "").toList
  | arr [] => ['[', ']']
  | arr (v :: vs) => '[' :: prettyItems (level + 1) (v :: vs) ++ newline level ++ [']']
  | obj [] => ['\x7B', '\x7D']
  | obj (m :: ms) => '\x7B' :: prettyMembers (level + 1) (m :: ms) ++ newline level ++ ['\x7D']

/-- Items, each on a line of its own, with commas between them. -/
def prettyItems (level : Nat) : List Json → List Char
  | [] => []
  | [v] => newline level ++ pretty level v
  | v :: vs => newline level ++ pretty level v ++ ',' :: prettyItems level vs

/-- Members, each on a line of its own, with commas between them. -/
def prettyMembers (level : Nat) : List (Option String × Json) → List Char
  | [] => []
  | [(key, v)] => newline level ++ quoted (key.getD "").toList ++ ':' :: ' ' :: pretty level v
  | (key, v) :: ms =>
    newline level ++ quoted (key.getD "").toList ++ ':' :: ' ' :: pretty level v ++
      ',' :: prettyMembers level ms

end

/-- The value as a text of its own. -/
def toText (v : Json) : String :=
  String.ofList (pretty 0 v)

end SensorRules.Json
