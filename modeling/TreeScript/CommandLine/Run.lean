import TreeScript.CommandLine.Arguments
import TreeScript.Log.Configure
import TreeScript.Program.Check
import TreeScript.Program.File
import TreeScript.Session

/-! # Commands

A command reads its files, works, and writes to two streams. What the program under it prints and
the events it reports are written in their order. A command ends with an exit code, unless it breaks
down on an error that it has no report for.
-/

namespace TreeScript.CommandLine

/-- The two streams and the log settings in force. -/
structure Console where
  out : String
  err : String
  settings : Log.Settings
  /-- The time shown on log lines. -/
  clock : Log.Clock

namespace Console

def write (console : Console) (stream : Log.Stream) (text : String) : Console :=
  match stream with
  | .out => { console with out := console.out ++ text }
  | .err => { console with err := console.err ++ text }

/-- Write the log lines that a message becomes; a sink may break down on it. -/
def log (console : Console) (message : Log.Message) : Option Log.SinkFault × Console :=
  let (lines, settings, fault) := console.settings.linesOf message
  let console := { console with settings }
  (fault, lines.foldl (fun console (stream, line) => console.write stream line) console)

end Console

/-- An error that no command reports. -/
inductive Crash where
  | settings (cause : Log.SettingsError)
  | sink (cause : Log.SinkFault)
  | load (cause : Breakdown)
  | config (cause : Breakdown)
  | fault (cause : Fault)
  | blocked (cause : Blocked)
  | badScalar (cause : Yaml.BadScalar)
  | badSeed
  | badLimit (kind : String)
  | badLevel (kind : String)
  /-- A file to read settings from is asked for and not named. -/
  | noPath
  /-- A binding to show is asked for and not named. -/
  | noName
  /-- The effort allowed did not suffice. -/
  | unfinished

def Crash.message : Crash → String
  | settings cause => cause.message
  | sink cause => cause.message
  | load cause => cause.message
  | config cause => cause.message
  | fault cause => cause.message
  | blocked cause => cause.message
  | badScalar cause => cause.message
  | badSeed => Config.seedMessage
  | badLimit kind => s!"'>=' not supported between instances of 'int' and '{kind}'"
  | badLevel kind => s!"'{kind}' object has no attribute 'upper'"
  | noPath => "expected str, bytes or os.PathLike object, not list"
  | noName => "unhashable type: 'list'"
  | unfinished => "not finished"

/-- What a command works with besides its arguments. -/
structure Environment where
  files : Files
  /-- The host for a configuration. -/
  host : Config → Host
  effort : Nat

/-- A part of a command. -/
abbrev Work := ExceptT Crash (StateM Console)

namespace Work

def print (text : String) : Work Unit := modify (·.write .out (text ++ "\n"))

def complain (text : String) : Work Unit := modify (·.write .err (text ++ "\n"))

/-- Write the log lines that a message becomes. -/
def log (message : Log.Message) : Work Unit := do
  let (fault, console) := (← get).log message
  set console
  match fault with
  | some cause => throw (.sink cause)
  | none => pure ()

def report (event : Event) : Work Unit := do
  log (.ofEvent (← get).clock event)

/-- Write a transcript. -/
def replay (transcript : List Entry) : Work Unit :=
  transcript.forM fun
    | .printed text => modify (·.write .out text)
    | .reported event => report event

/-- Put log settings in force. -/
def adopt (settings : Except Log.SettingsError Log.Settings) : Work Unit :=
  match settings with
  | .ok settings => modify fun console => { console with settings }
  | .error cause => throw (.settings cause)

end Work

/-- The warning that a settings file is not in its notation. -/
def settingsWarning (clock : Log.Clock) (path : String) : Log.Message where
  clock := clock
  level := .warning
  source := Log.Settings.mainLogger
  text := s!"failed to parse logging config {path}: {notationMessage}"
  template := "failed to parse logging config %s: %s"
  arguments := [.text path, .text notationMessage]
  origin := ⟨"log", "_load_config", 47⟩

/-- Set up logging from a settings file, if there is one. -/
def configureLog (env : Environment) (path : Option Operand) : Work Unit := do
  let found ← match path with
    | some (some path) => pure (env.files (normalizePath path))
    | some none => throw .noPath
    | none => pure .nothing
  match found with
  | .nothing => Work.adopt (Log.Settings.ofDocument .null)
  | .blocked cause => throw (.blocked cause)
  | .text text =>
    match Document.ofYaml (withLineFeeds text) with
    | .ok document => Work.adopt (Log.Settings.ofDocument document)
    | .error (.badScalar cause) => throw (.badScalar cause)
    | .error .malformed => do
      Work.log (settingsWarning (← get).clock (path.join.getD ""))
      Work.adopt (Log.Settings.ofDocument .null)

/-- Set the level of the log; an empty setting changes nothing. -/
def setLogLevel (level : Document) : Work Unit := do
  if level.isTruthy then
    match level with
    | .scalar (.string name) => Work.adopt ((← get).settings.setLevel (upperCase name))
    | other => throw (.badLevel other.kindName)

/-- Load the program; none if it cannot be loaded, which is then reported. -/
def loadNodes (env : Environment) (path : String) : Work (Option (List Node)) := do
  match loadProgram env.files path with
  | .ok nodes =>
    Work.report (.loaded nodes.length (normalizePath path))
    return some nodes
  | .error (.load (.broken cause)) => throw (.load cause)
  | .error (.blocked cause) => throw (.blocked cause)
  | .error (.missing path) =>
    Work.complain ("Error: " ++ (FileError.missing path).message)
    return none
  | .error cause =>
    if let .badScalar scalar := cause then
      if scalar.isFatal then throw (.badScalar scalar)
    Work.complain ("Error: invalid program: " ++ cause.message)
    return none

/-- Check a program, reporting an early end. -/
def checkNodes (nodes : List Node) (limit : Option Int) : Work CheckResult := do
  let result := check nodes limit
  if result.stopped then
    Work.report (.checkStopped (result.diagnostics.countP (·.severity = .error)))
  return result

/-- Print the result of a check, which decides the exit code. -/
def showResult (result : CheckResult) (file : String) : Work UInt32 := do
  if result.hasErrors then
    let count := result.diagnostics.length
    Work.print s!"Type checking failed with {count} error(s):"
    result.diagnostics.forM fun diagnostic => Work.print diagnostic.format
    return 1
  else
    let count := result.nodeTypes.length
    Work.print s!"OK: {file} - {count} top-level node(s), no errors"
    return 0

/-- Check a program up to a limit that is no number, which matters once there is an error. -/
def checkWithoutLimit (nodes : List Node) (limit : Document) : Work CheckResult := do
  let result := check nodes none
  if result.hasErrors then throw (.badLimit limit.kindName) else return result

def checkCommand (env : Environment) (file : String) (maxErrors : Option Int) : Work UInt32 := do
  match ← loadNodes env file with
  | none => return 1
  | some nodes =>
    let result ← match maxErrors with
      | some limit => checkNodes nodes (some limit)
      | none => checkWithoutLimit nodes (.list [])
    showResult result file

/-- Show a top-level binding. -/
def showBinding (host : Host) (store : Store) (operand : Operand) : Work Unit := do
  let some name := operand | throw .noName
  match store.lookup? Store.root name with
  | none => Work.print s!"{name}: <unbound>"
  | some value =>
    match Exec.textOf value host store with
    | .done text _ => Work.print s!"{name} = {text}"
    | .stopped (.fault cause) _ => throw (.fault cause)
    | .stopped _ _ | .unfinished _ => throw .unfinished

/-- Run a program and show bindings. -/
def execute (env : Environment) (config : Config) (nodes : List Node) (shown : List Operand) :
    Work UInt32 := do
  if !Config.isSeed config.randomSeed then throw .badSeed
  match runProgram (env.host config) env.effort nodes with
  | .done _ store => do
    Work.replay store.transcript.toList
    shown.forM (showBinding (env.host config) store)
    return 0
  | .stopped (.failure cause) store => do
    Work.replay store.transcript.toList
    Work.complain s!"Error[{cause.code}]: {cause.message}"
    return 1
  | .stopped (.fault cause) store => do
    Work.replay store.transcript.toList
    throw (.fault cause)
  | .stopped (.signal _) _ | .unfinished _ => throw .unfinished

/-- Check a program before it runs; `some` exit code if it may not run. -/
def checkFirst (config : Config) (nodes : List Node) (file : String) : Work (Option UInt32) := do
  let result ← match config.errorLimit? with
    | some limit => checkNodes nodes limit
    | none => checkWithoutLimit nodes config.maxErrors
  if result.hasErrors then return some (← showResult result file) else return none

/-- The configuration; none if it cannot be read, which is then reported. -/
def configFor (env : Environment) (path : Option Operand) : Work (Option Config) := do
  match path with
  | none | some none | some (some "") => return some .default
  | some (some path) =>
    match loadConfig env.files path with
    | .ok config => return some config
    | .error (.broken cause) => throw (.config cause)
    | .error (.blocked cause) => throw (.blocked cause)
    | .error cause =>
      if let .badScalar scalar := cause then
        if scalar.isFatal then throw (.badScalar scalar)
      Work.complain ("Error: " ++ cause.message)
      return none

def runCommand (env : Environment) (keepsLevel : Bool) (file : String) (checks : Bool)
    (configPath : Option Operand) (shown : List Operand) : Work UInt32 := do
  match ← configFor env configPath with
  | none => return 1
  | some config =>
    if !keepsLevel then setLogLevel config.logLevel
    match ← loadNodes env file with
    | none => return 1
    | some nodes =>
      match ← (if checks then checkFirst config nodes file else pure none) with
      | some code => return code
      | none => execute env config nodes shown

/-- Carry out a command. -/
def perform (env : Environment) (arguments : Arguments) : Work UInt32 := do
  configureLog env arguments.logConfig
  match arguments.logLevel with
  | some (some level) => setLogLevel (.string level)
  | _ => pure ()
  match arguments.command with
  | .check file maxErrors => checkCommand env file maxErrors
  | .run file checks config shown =>
    runCommand env arguments.logLevel.isSome file checks config shown

/-- Carry out a command from the start: its exit code or crash, and what it wrote. -/
def runArguments (env : Environment) (clock : Log.Clock) (arguments : Arguments) :
    Except Crash UInt32 × Console :=
  (perform env arguments).run ⟨"", "", .unset, clock⟩

/-- The files that a command may read. -/
def Arguments.paths (arguments : Arguments) : List String :=
  let paths := match arguments.command with
    | .check file _ => [file]
    | .run file _ config _ => file :: config.join.toList
  (paths ++ arguments.logConfig.join.toList).map normalizePath

/-- How the program is used. -/
def usage : String :=
  "usage: intrear [-h] [--log-level LEVEL] [--log-config FILE] \x7bcheck,run\x7d ...\n"

end TreeScript.CommandLine
