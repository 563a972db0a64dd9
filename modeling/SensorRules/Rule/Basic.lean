import SensorRules.Expression.Reader
import SensorRules.Names

/-!
Rules on the sensors of a house.

* `Level`: what is said, and to whom, once a violation has lasted for some time;
* `Rule`: a rule with its expression as text, its sensors, its preconditions and its levels;
* `Rule.Error`: what is wrong with a written rule.
-/

namespace SensorRules

/-- What is said, and to whom. Either half may be missing. -/
structure Level where
  message : Option String
  notifyGroups : Option NameSet
deriving DecidableEq

/-- The levels of a rule, by the seconds that a violation has lasted. -/
abbrev Levels := Std.ExtTreeMap Nat Level

namespace Levels

/-- The level at a number of seconds, with neither half if there is none. -/
def level (levels : Levels) (seconds : Nat) : Level :=
  levels[seconds]?.getD ⟨none, none⟩

/-- The levels with a message at a number of seconds. -/
def setMessage (levels : Levels) (seconds : Nat) (message : String) : Levels :=
  levels.insert seconds { levels.level seconds with message := some message }

/-- The levels with groups to notify at a number of seconds. -/
def setGroups (levels : Levels) (seconds : Nat) (groups : NameSet) : Levels :=
  levels.insert seconds { levels.level seconds with notifyGroups := some groups }

/-- The messages in the order of their seconds. -/
def messages (levels : Levels) : List (Nat × String) :=
  levels.toList.filterMap fun e => e.2.message.map (e.1, ·)

/-- The groups to notify in the order of their seconds. -/
def groups (levels : Levels) : List (Nat × NameSet) :=
  levels.toList.filterMap fun e => e.2.notifyGroups.map (e.1, ·)

end Levels

/-- A rule. -/
structure Rule where
  name : String
  expression : String
  sensorNames : NameSet
  viewPermissions : NameSet
  /-- Rules that must all be met before the expression counts. -/
  requiredTrue : NameSet
  /-- Rules of which one must be met, if there are any. -/
  orRules : NameSet
  okMessage : String
  levels : Levels
  invisible : Bool
  /-- The most urgent rules have the least number. -/
  priority : Int
  relatedLogs : NameSet
deriving DecidableEq

namespace Rule

/-- What is wrong with a written rule. -/
inductive Error where
  /-- Its name is blank. -/
  | blankName
  /-- A key of the table with the given title is no number of seconds. -/
  | notSeconds (rule table key : String)
deriving DecidableEq, Repr

/-- The wording of an error. -/
def Error.message : Error → String
  | blankName => "rule Name must not be empty"
  | notSeconds rule table key =>
    "rule '" ++ rule ++ "': " ++ table ++ " key '" ++ key ++ "' is not a number of seconds"

end Rule

end SensorRules
