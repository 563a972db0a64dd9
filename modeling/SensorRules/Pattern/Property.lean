import SensorRules.Pattern.CharSet
import SensorRules.Text.Category
import SensorRules.Text.Partition
import SensorRules.Text.Script

/-!
Sets of characters by the properties that Unicode gives them.

* `PropertyTable`: the sets under the names of properties and of their values;
* `normalName`: the form in which names are compared;
* `category?` and `script?`: the characters of a general category and those of a script;
* `PropertyTable.standard`: the table in use, which has these sets and white space.

How patterns are read and what they match depends on the table only through the sets that it gives;
all that is proved about patterns holds with every table.
-/

namespace SensorRules.Pattern

/-- The sets of characters that have a property. -/
class PropertyTable where
  /-- The set of a property, or of a value that is known without its property, such as `Lu`. -/
  named? : String → Option CharSet
  /-- The set of a value of a property, such as `Greek` of `Script`. -/
  valued? : (property value : String) → Option CharSet

/-- A name in lower case, without `is` at its beginning and without blanks, low lines and minus
signs; what is not ASCII is left out. The name `isc` stays as it is. -/
def normalName (name : String) : String :=
  let (found, cs) := match name.toList with
    | a :: b :: rest =>
      if a.toLower = 'i' ∧ b.toLower = 's' then (true, rest) else (false, name.toList)
    | cs => (false, cs)
  let kept := cs.filter fun c => c.toNat < 0x80 && c != ' ' && c != '_' && c != '-'
  let letters := kept.map Char.toLower
  if found ∧ letters = ['c'] then "isc" else String.ofList letters

/-- The characters with one of the values, by the table of a property. -/
def ofValues (table values : List String) : CharSet :=
  ⟨CharSet.joinRanges (Text.rangesOf values 0 ((table.flatMap Text.words).map Text.readRun))⟩

/-- The characters of a general category, or of several, by a name in its normal form. -/
def category? : String → Option CharSet
  | "any" => some .all
  | "ascii" => some (.range '\x00' '\x7F')
  | "assigned" => some (ofValues Text.categoryTable ["Cn"]).negate
  | name =>
    (Text.categoryNames.find? fun e => e.1.any (normalName · == name)).map fun e =>
      ofValues Text.categoryTable e.2

/-- The characters of a script, by a name in its normal form. -/
def script? (name : String) : Option CharSet :=
  (Text.scriptNames.find? (·.any (normalName · == name))).map fun names =>
    ofValues Text.scriptTable (names.take 1)

/-- General categories, scripts and white space. -/
instance PropertyTable.standard : PropertyTable where
  named? name :=
    let name := normalName name
    if name ∈ ["whitespace", "wspace", "space"] then some .blank
    else (category? name).or (script? name)
  valued? property value :=
    match normalName property with
    | "generalcategory" | "gc" => category? (normalName value)
    | "script" | "sc" => script? (normalName value)
    | _ => none

end SensorRules.Pattern
