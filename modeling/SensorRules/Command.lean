import SensorRules.Config

/-!
The arguments of the command that evaluates a rule file on snapshots of the house.

* `Command`: what the arguments ask for;
* `Command.read`: the command of a list of arguments, and `Command.Error` for what is wrong with it;
* `Command.config` and `Command.shownIssues`: the settings of a command, where the arguments come
  before the environment.
-/

namespace SensorRules

/-- What the arguments ask for. -/
structure Command where
  profile : Option String := none
  rulesFile : Option String := none
  modelFile : Option String := none
  /-- The seconds between two passes. -/
  interval : Option Nat := none
  /-- The number of issues to be listed after each pass. -/
  top : Option Nat := none
  /-- One pass only, after which the issues are printed. -/
  once : Bool := false
deriving DecidableEq, Repr

namespace Command

/-- What is wrong with a list of arguments. -/
inductive Error where
  | unknownOption (option : String)
  | missingValue (option : String)
  | notANumber (option value : String)
deriving DecidableEq, Repr

/-- The wording of an error. -/
def Error.message : Error → String
  | unknownOption option => "unexpected argument '" ++ option ++ "'"
  | missingValue option => "a value is required for '" ++ option ++ "'"
  | notANumber option value => "invalid value '" ++ value ++ "' for '" ++ option ++ "'"

/-- The options that take a value. -/
def valueOptions : List String :=
  ["--profile", "--rules-file", "--model-file", "--interval", "--top"]

/-- The command with the value of an option. -/
def set (c : Command) (option value : String) : Except Error Command :=
  let number : Except Error Nat :=
    match Number.unsigned? Number.word64 value with
    | some n => .ok n
    | none => .error (.notANumber option value)
  match option with
  | "--profile" => .ok { c with profile := some value }
  | "--rules-file" => .ok { c with rulesFile := some value }
  | "--model-file" => .ok { c with modelFile := some value }
  | "--interval" => number.map fun n => { c with interval := some n }
  | "--top" => number.map fun n => { c with top := some n }
  | _ => .error (.unknownOption option)

/-- An option and its value where they stand in one argument, as in `--top=3`. -/
def parts (arg : String) : List String :=
  let option := arg.toList.takeWhile (· != '=')
  match arg.toList.drop option.length with
  | _ :: value =>
    if valueOptions.contains (String.ofList option) then
      [String.ofList option, String.ofList value]
    else [arg]
  | [] => [arg]

/-- The command with arguments whose values stand alone. -/
def readParts (c : Command) : List String → Except Error Command
  | [] => .ok c
  | "--once" :: rest => readParts { c with once := true } rest
  | [option] =>
    if valueOptions.contains option then .error (.missingValue option)
    else .error (.unknownOption option)
  | option :: value :: rest =>
    match c.set option value with
    | .ok c => readParts c rest
    | .error e => .error e

/-- The command of a list of arguments. -/
def read (args : List String) : Except Error Command :=
  readParts {} (args.flatMap parts)

/-- The settings of the command. -/
def config (c : Command) (env : Environment) : Config :=
  let base := match c.profile with
    | some profile => Config.ofProfile env profile
    | none => Config.ofEnvironment env
  { base with
    rulesFile := c.rulesFile.getD base.rulesFile
    modelFile := c.modelFile.getD base.modelFile
    engine := { base.engine with intervalSecs := c.interval.getD base.engine.intervalSecs } }

/-- The variable with the number of issues to be listed. -/
def topVariable : String := "RULES_TOP_ISSUES"

/-- The number of issues to be listed after each pass; five if nothing is said. -/
def shownIssues (c : Command) (env : Environment) : Nat :=
  c.top.getD (env.read "" topVariable (Number.unsigned? Number.word64) 5)

/-- The profile whose variables the command may need. -/
def profileName (c : Command) (env : Environment) : String :=
  Text.uppercase (c.profile.getD ((env Config.profileVariable).getD ""))

/-- The variables that the settings of a profile may come from. -/
def variableNames (profile : String) : List String :=
  let own := ["RULES_FILE", "MODEL_FILE", "EVAL_INTERVAL_SECS", "HISTORY_CAPACITY",
    "ESCALATION_BOUNDARY", "WORKING_HOURS_START", "WORKING_HOURS_END"]
  [Config.profileVariable, topVariable] ++ own ++ own.map (profile ++ "_" ++ ·)

end Command

end SensorRules
