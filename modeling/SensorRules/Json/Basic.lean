/-!
JSON values as they are written: the members of an object stay in order, repeated keys included.

* `Json`: the six forms of values; whole numbers are kept apart from all others;
* `Json.text`: the string value with a given text.
-/

namespace SensorRules

/-- A JSON value. -/
inductive Json where
  | null
  | bool (b : Bool)
  /-- A number written without fraction and exponent, other than `-0`. -/
  | int (n : Int)
  /-- Any other number, as written. -/
  | real (literal : String)
  /-- A string. It has no text if an escape in it names one half of a surrogate pair alone: such a
  string can be skipped but not read. -/
  | str (text : Option String)
  | arr (items : List Json)
  | obj (members : List (Option String × Json))

namespace Json

/-- The string with a text. -/
def text (s : String) : Json :=
  str (some s)

/-- The object with members in the given order. -/
def object (members : List (String × Json)) : Json :=
  obj (members.map fun m => (some m.1, m.2))

/-- The array of strings. -/
def texts (ss : List String) : Json :=
  arr (ss.map text)

end Json

end SensorRules
