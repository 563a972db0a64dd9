import SensorRules.Rule.Basic
import SensorRules.Text.Letter

/-!
Escalation: what is said of a violation, and to whom, by the time that it has lasted.

* `Boundary`: which of the two levels around the time counts, with its spellings;
* `Boundary.choose`: the entry that counts among entries in the order of their seconds;
* `Escalation`: a message and the groups to notify, chosen independently of each other by
  `Escalation.of`.
-/

namespace SensorRules

/-- Which of the two levels around an elapsed time counts. -/
inductive Boundary where
  /-- The level that has been passed, or the lowest if none has. -/
  | previousHook
  /-- The level that has been reached or comes next, or the highest if there is none. -/
  | matchedKey
deriving DecidableEq, Repr

namespace Boundary

/-- The short name. -/
def name : Boundary → String
  | previousHook => "previous"
  | matchedKey => "matched"

/-- The long name. -/
def longName : Boundary → String
  | previousHook => "previous_hook"
  | matchedKey => "matched_key"

/-- The boundary with a short or long name, or else the text that is neither: blanks around it and
the case of letters are left aside. -/
def read (s : String) : Except String Boundary :=
  let word := Text.lowercase (Text.trim s)
  if word = "previous" ∨ word = "previous_hook" then .ok previousHook
  else if word = "matched" ∨ word = "matched_key" then .ok matchedKey
  else .error word

/-- What is said of a text that names no boundary. -/
def unknownMessage (word : String) : String :=
  "unknown escalation boundary '" ++ word ++ "'"

/-- The entry that counts after `elapsed` seconds, of entries in ascending order. -/
def choose {α : Type} (b : Boundary) (elapsed : Nat) (entries : List (Nat × α)) :
    Option (Nat × α) :=
  let passed := entries.takeWhile (·.1 < elapsed)
  let ahead := entries.dropWhile (·.1 < elapsed)
  match b with
  | previousHook => passed.getLast?.or ahead.head?
  | matchedKey => ahead.head?.or passed.getLast?

end Boundary

/-- What is said of a violation, and to whom. -/
structure Escalation where
  message : Option String
  notifyGroups : NameSet
deriving DecidableEq

namespace Escalation

/-- The escalation after `elapsed` seconds: message and groups are each chosen among the levels that
have them. -/
def of (levels : Levels) (elapsed : Nat) (b : Boundary) : Escalation where
  message := (b.choose elapsed levels.messages).map (·.2)
  notifyGroups := ((b.choose elapsed levels.groups).map (·.2)).getD ∅

/-- The message, or a general one if no level has a message. -/
def messageFor (e : Escalation) (ruleName : String) : String :=
  e.message.getD ("rule '" ++ ruleName ++ "' violated")

end Escalation

end SensorRules
