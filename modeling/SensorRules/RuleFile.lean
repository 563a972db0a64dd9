import SensorRules.Home.Snapshot
import SensorRules.Rule.Loading

/-!
Rules kept in a file. The file may be changed from outside at any time; the rules in force are those
of the latest good reading or writing.

* `FileContent`: the bytes of a file, if it exists, and `FileContent.text`;
* `RuleFile`: the file and the rules in force;
* `RuleFile.load`, `RuleFile.reload` and `RuleFile.write`;
* `FileContent.home`: a snapshot of a house from the same kind of file.
-/

namespace SensorRules

/-- Why a file cannot be read as text. -/
inductive FileError where
  | missing
  | notText
deriving DecidableEq, Repr

/-- The wording of an error. -/
def FileError.message : FileError → String
  | missing => "IO error: No such file or directory (os error 2)"
  | notText => "IO error: stream did not contain valid UTF-8"

/-- The bytes of a file, if it exists. -/
abbrev FileContent := Option ByteArray

namespace FileContent

/-- The text in a file. -/
def text (file : FileContent) : Except FileError String :=
  match file with
  | none => .error .missing
  | some bytes =>
    match String.fromUTF8? bytes with
    | some s => .ok s
    | none => .error .notText

/-- The file with a text. -/
def ofText (s : String) : FileContent :=
  some s.toUTF8

/-- The house in a snapshot file, unless the file cannot be read; nothing if it is no snapshot. -/
def home (file : FileContent) : Except FileError (Option Home) :=
  file.text.map Home.ofText?

end FileContent

/-- The rules in force and the file that they are kept in. -/
structure RuleFile where
  file : FileContent
  rules : List Rule

namespace RuleFile

/-- Why rules cannot be loaded from a file. -/
inductive Error where
  | file (e : FileError)
  | load (e : LoadError)
deriving DecidableEq, Repr

/-- No rules and no file. -/
def empty : RuleFile :=
  ⟨none, []⟩

/-- The file changed from outside. -/
def replace (f : RuleFile) (file : FileContent) : RuleFile :=
  { f with file }

/-- The rule set in the file. -/
def load (f : RuleFile) : Except Error RuleSet :=
  match f.file.text with
  | .error e => .error (.file e)
  | .ok s =>
    match RuleSet.ofText s with
    | .error e => .error (.load e)
    | .ok set => .ok set

/-- Puts the rules of the file in force; if there are none to be had, nothing changes. -/
def reload (f : RuleFile) : RuleFile × Except Error (List LoadResult) :=
  match f.load with
  | .ok set => ({ f with rules := set.rules }, .ok set.results)
  | .error e => (f, .error e)

/-- The text of a rule set. -/
def textOf (rules : List Rule) : String :=
  RuleDocument.listToText (rules.map Rule.toDocument)

/-- Writes rules to the file and puts them in force. -/
def write (f : RuleFile) (rules : List Rule) : RuleFile :=
  { f with file := FileContent.ofText (textOf rules), rules }

end RuleFile

end SensorRules
