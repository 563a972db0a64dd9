import SensorRules.Capability.Standard
import SensorRules.Command
import SensorRules.Engine
import SensorRules.RuleFile
import SensorRules.Violation.Listing
import Std.Time.Zoned

/-!
The worker: evaluates the rules of a file on a snapshot of the house at fixed intervals, and lists
the most urgent issues. Both files are read again for each pass; rules that cannot be loaded leave
those in force, and a snapshot that cannot be read skips the pass.
-/

namespace SensorRules.Worker

open Time (Instant Zone)

/-- The variables with the given names. -/
def readVariables (names : List String) : IO Environment := do
  let found ← names.mapM fun name => do return (name, ← IO.getEnv name)
  return fun name => (found.lookup name).join

/-- The bytes of a file. -/
def readFile (path : String) : IO FileContent := do
  try return some (← IO.FS.readBinFile path)
  catch _ => return none

/-- The present instant. -/
def readClock : IO Instant := do
  let nanos := (← Std.Time.Timestamp.now).toNanosecondsSinceUnixEpoch.val
  let instant := Instant.ofParts? (nanos / 1000000000) (nanos % 1000000000).toNat
  return instant.getD .epoch

/-- The zone of the host; that of UTC if it cannot be told. -/
def readZone : IO Zone := do
  try
    let rules ← Std.Time.Database.defaultGetLocalZoneRules
    return fun now =>
      (rules.timezoneAt (.ofSecondsSinceUnixEpoch (.ofInt now.second))).offset.second.val
  catch _ => return .utc

/-- Why rules cannot be loaded, for the log. -/
def loadErrorText : RuleFile.Error → String
  | .file e => e.message
  | .load .notDocuments => "Malformed rule spec"
  | .load (.badRule e) => LoadError.ruleMessage e

/-- Lists issues on the log. -/
def logIssues (issues : List Issue) : IO Unit :=
  issues.forM fun i =>
    IO.eprintln (i.ruleName ++ " (" ++ toString i.durationSecs ++ " s): " ++ i.message)

/-- One pass over the snapshot in a file. -/
def pass (engine : Engine) (rules : List Rule) (config : Config) (top : Nat) : IO Engine := do
  match FileContent.home (← readFile config.modelFile) with
  | .error e =>
    IO.eprintln ("failed to read model snapshot, skipping pass: " ++ e.message)
    return engine
  | .ok none =>
    IO.eprintln "failed to read model snapshot, skipping pass: JSON error"
    return engine
  | .ok (some home) =>
    let engine := (engine.runPass (← readZone) rules home (← readClock)).engine
    logIssues (engine.published.topIssues top)
    return engine

/-- Passes at fixed intervals, for ever. -/
partial def run (engine : Engine) (rules : RuleFile) (config : Config) (top : Nat) : IO Unit := do
  let (rules, loaded) := (rules.replace (← readFile config.rulesFile)).reload
  if let .error e := loaded then
    IO.eprintln ("keeping the rules in force: " ++ loadErrorText e)
  let engine ← pass engine rules.rules config top
  IO.sleep (min (1000 * max 1 config.engine.intervalSecs) (Number.word32 - 1)).toUInt32
  run engine rules config top

/-- Carries out a command. -/
def perform (command : Command) : IO UInt32 := do
  let profile := command.profileName (← readVariables [Config.profileVariable])
  let env ← readVariables (Command.variableNames profile)
  let config := command.config env
  let top := command.shownIssues env
  let (rules, loaded) := (RuleFile.empty.replace (← readFile config.rulesFile)).reload
  if let .error e := loaded then
    IO.eprintln ("Error: loading rules from " ++ config.rulesFile ++ ": " ++ loadErrorText e)
    return 1
  let engine := Engine.new .standard config.engine.historyCapacity config.engine.boundary
    config.engine.workingHours none
  if command.once then
    let engine ← pass engine rules.rules config top
    IO.println (Issue.listToText engine.published.issues)
  else
    run engine rules config top
  return 0

end SensorRules.Worker

/-- The command line of the worker. -/
def main (args : List String) : IO UInt32 := do
  match SensorRules.Command.read args with
  | .ok command => SensorRules.Worker.perform command
  | .error e =>
    IO.eprintln ("error: " ++ e.message)
    return 2
