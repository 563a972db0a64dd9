import SensorRules.Capability.Basic
import SensorRules.Text.Uppercase
import SensorRules.Violation.Escalation
import SensorRules.Violation.History

/-!
The settings of the engine, from variables of the environment. In a profile, each variable is first
looked up with the profile's name and a low line before its own name. A variable that is empty
counts as not set, and a text that cannot be read gives the default.

* `Environment`: the variables by name;
* `Environment.setting?`: a variable in a profile;
* `Config`, with `Config.standard`, `Config.ofProfile` and `Config.ofEnvironment`.
-/

namespace SensorRules

/-- The variables of the environment. -/
abbrev Environment := String → Option String

namespace Environment

/-- A variable that is set and not empty. -/
def value? (env : Environment) (name : String) : Option String :=
  (env name).filter (· ≠ "")

/-- A variable in a profile: its own name counts if the profile does not set it. The empty name is
no profile. -/
def setting? (env : Environment) (profile name : String) : Option String :=
  if profile = "" then env.value? name
  else (env.value? (profile ++ "_" ++ name)).or (env.value? name)

/-- A setting that is read from its text, with a default. -/
def read {α : Type} (env : Environment) (profile name : String) (reader : String → Option α)
    (default : α) : α :=
  ((env.setting? profile name).bind reader).getD default

end Environment

/-- The settings of the engine. -/
structure EngineConfig where
  intervalSecs : Nat
  historyCapacity : Nat
  boundary : Boundary
  workingHours : WorkingHours
deriving DecidableEq, Repr

/-- All settings. -/
structure Config where
  profile : String
  rulesFile : String
  modelFile : String
  engine : EngineConfig
deriving DecidableEq, Repr

namespace EngineConfig

/-- The settings without any variable. -/
def standard : EngineConfig :=
  ⟨5, History.standardCapacity, .previousHook, .standard⟩

/-- The settings of a profile. -/
def ofProfile (env : Environment) (profile : String) : EngineConfig where
  intervalSecs :=
    env.read profile "EVAL_INTERVAL_SECS" (Number.unsigned? Number.word64) standard.intervalSecs
  historyCapacity :=
    env.read profile "HISTORY_CAPACITY" (Number.unsigned? Number.word64) standard.historyCapacity
  boundary :=
    env.read profile "ESCALATION_BOUNDARY" (fun s => (Boundary.read s).toOption) standard.boundary
  workingHours :=
    ⟨env.read profile "WORKING_HOURS_START" (Number.unsigned? Number.word32)
        standard.workingHours.start,
      env.read profile "WORKING_HOURS_END" (Number.unsigned? Number.word32)
        standard.workingHours.stop⟩

end EngineConfig

namespace Config

/-- The variable with the name of the profile. -/
def profileVariable : String := "HAUSWATCH_PROFILE"

/-- The settings without any variable. -/
def standard : Config :=
  ⟨"", "data/rules/home.json", "data/model/snapshot.json", .standard⟩

/-- The settings of a profile, whose name is taken in upper case. -/
def ofProfile (env : Environment) (profile : String) : Config :=
  let profile := Text.uppercase profile
  { profile
    rulesFile := env.read profile "RULES_FILE" some standard.rulesFile
    modelFile := env.read profile "MODEL_FILE" some standard.modelFile
    engine := .ofProfile env profile }

/-- The settings of the profile that the environment names. -/
def ofEnvironment (env : Environment) : Config :=
  ofProfile env (Text.uppercase ((env profileVariable).getD ""))

/-- What a profile is called. -/
def profileLabel (c : Config) : String :=
  if c.profile = "" then "default" else c.profile

end Config

end SensorRules
