import SensorRules.Json.Basic
import SensorRules.Names

/-!
Typed values from JSON. A decoder returns nothing for a value of the wrong form.

A record may be written as an object, whose members may come in any order and may include unknown
ones, or as an array of its fields in order, from which fields with a default may be missing at the
end.

* `Json.text?`, `Json.bool?`, `Json.intWithin?`, `Json.listOf?`, `Json.names?`, `Json.tableOf?`;
* `Json.orNull`: `null` stands for a default;
* `Record` and `Json.record?`: the fields of a record;
* `Record.required` and `Record.optional`: one field, decoded.
-/

namespace SensorRules

namespace Json

/-- The text of a string. -/
def text? : Json → Option String
  | str s => s
  | _ => none

/-- A truth value. -/
def bool? : Json → Option Bool
  | bool b => some b
  | _ => none

/-- A whole number that is at least `-bound` and less than `bound`. -/
def intWithin? (bound : Nat) : Json → Option Int
  | int n => if -(bound : Int) ≤ n ∧ n < bound then some n else none
  | _ => none

/-- An array whose items are all decoded. -/
def listOf? {α : Type} (decode : Json → Option α) : Json → Option (List α)
  | arr items => items.mapM decode
  | _ => none

/-- An array of texts, taken as a set. -/
def names? (v : Json) : Option NameSet :=
  (listOf? text? v).map NameSet.ofNames

/-- A key and a decoded value. -/
def keyed? {α : Type} (decode : Json → Option α) (m : Option String × Json) :
    Option (String × α) := do
  let key ← m.1
  let value ← decode m.2
  some (key, value)

/-- An object as a table; of a repeated key the last value counts. -/
def tableOf? {α : Type} (decode : Json → Option α) : Json → Option (NameTable α)
  | obj members => (members.mapM (keyed? decode)).map fun es => Std.ExtTreeMap.ofList es
  | _ => none

/-- Reads `null` as the default. -/
def orNull {α : Type} (default : α) (decode : Json → Option α) : Json → Option α
  | null => some default
  | v => decode v

end Json

/-- The fields of a record, by name or by position. -/
inductive Record where
  | named (members : List (String × Json))
  | positional (items : List Json)

namespace Record

/-- The value of the field with the given position and spellings, if it is there. A field given
twice, also in two spellings, is an error. -/
def field? (r : Record) (position : Nat) (spellings : List String) : Option (Option Json) :=
  match r with
  | positional items => some items[position]?
  | named members =>
    match members.filter (spellings.contains ·.1) with
    | [] => some none
    | [(_, v)] => some (some v)
    | _ => none

/-- A field that must be there. -/
def required {α : Type} (r : Record) (position : Nat) (name : String) (decode : Json → Option α) :
    Option α :=
  match r.field? position [name] with
  | some (some v) => decode v
  | _ => none

/-- A field that has a default. -/
def optional {α : Type} (r : Record) (position : Nat) (spellings : List String) (default : α)
    (decode : Json → Option α) : Option α :=
  match r.field? position spellings with
  | some (some v) => decode v
  | some none => some default
  | none => none

end Record

namespace Json

/-- The fields of a record that has `width` of them. -/
def record? (width : Nat) : Json → Option Record
  | obj members => (members.mapM (keyed? some)).map .named
  | arr items => if items.length ≤ width then some (.positional items) else none
  | _ => none

end Json

end SensorRules
