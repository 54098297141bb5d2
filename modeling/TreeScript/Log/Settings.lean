import TreeScript.Document.Display
import TreeScript.Log.Format
import TreeScript.Table

/-! # Log settings

Messages go to sinks through the logger that they name and the loggers above it. A logger passes on
the messages of its level and above, to its own sinks and, unless it keeps them, to those of the
loggers above it. A sink writes lines, or holds messages back until there are enough of them or one
of them weighs enough.
-/

namespace TreeScript.Log

/-- The streams that log lines are written to. -/
inductive Stream where
  | out
  | err
  deriving DecidableEq, Repr

/-- Where lines are written; a writer without a stream or without an end for its lines drops them.
-/
structure Writer where
  stream : Option Stream
  format : Format
  lineEnd : Option String

/-- A number to compare with, or the kind of what was given in its place. -/
inductive Limit where
  | number (value : Number)
  | unfit (kind : String)

/-- Why a sink breaks down on a message. -/
inductive SinkFault where
  /-- The sink has no way to write. -/
  | unwritten
  /-- A limit of the sink is no number. -/
  | unfitLimit (kind : String)

def SinkFault.message : SinkFault → String
  | unwritten => "emit must be implemented by Handler subclasses"
  | unfitLimit kind => s!"'>=' not supported between instances of 'int' and '{kind}'"

/-- Whether a count is not below a limit. -/
def Limit.isReached (limit : Limit) (count : Int) : Except SinkFault Bool :=
  match limit with
  | .number value => .ok (((Number.int count).compare? value).any (· != .lt))
  | .unfit kind => .error (.unfitLimit kind)

/-- What a sink does with messages. -/
inductive Sink where
  | writer (target : Writer)
  /-- Hold messages back under a name, until there are `capacity` of them or one has at least the
  weight `flushWeight`; then they all go to the target, if there is one. -/
  | buffer (name : String) (capacity flushWeight : Limit) (target : Option Sink)
  /-- Break down. -/
  | unwritten

/-- A sink in use, with the least weight of messages that it takes from a logger. -/
structure Outlet where
  threshold : Int
  sink : Sink

/-- A logger; a threshold of zero stands for that of the logger above. -/
structure Logger where
  threshold : Int
  outlets : List Outlet
  passesOn : Bool

namespace Logger

/-- A logger without settings of its own. -/
def plain : Logger := ⟨0, [], true⟩

/-- The logger above all others, as it is without settings. -/
def top : Logger := ⟨Level.warning.weight, [], true⟩

end Logger

structure Settings where
  loggers : Table Logger
  root : Logger
  /-- The loggers that settings were made for. -/
  named : List String
  /-- Whether loggers that are neither named nor under a named one are silent. -/
  silencesOthers : Bool
  /-- The messages that sinks hold back, the last one first. -/
  held : Table (List Message)

/-- The weight of a level by name. -/
def weight? : String → Option Int
  | "CRITICAL" | "FATAL" => some 50
  | "ERROR" => some 40
  | "WARN" | "WARNING" => some 30
  | "INFO" => some 20
  | "DEBUG" => some 10
  | "NOTSET" => some 0
  | _ => none

namespace Settings

/-- The settings before any are made. -/
def unset : Settings := ⟨[], .top, [], false, []⟩

/-- The name of the logger that all others are under. -/
def mainLogger : String := "intrear"

/-- Set the level of the main logger; none if there is no such level. -/
def setLevel? (settings : Settings) (name : String) : Option Settings := do
  let threshold ← weight? name
  let logger := (settings.loggers.get? mainLogger).getD .plain
  return { settings with loggers := settings.loggers.put mainLogger { logger with threshold } }

/-- The names of a logger and those above it, up to the root. -/
def namesAbove (name : String) : List String :=
  let parts := name.splitOn "."
  ((List.range parts.length).map fun n => ".".intercalate (parts.take (n + 1))).reverse

/-- The loggers that a message of a source goes through, the root last. -/
def loggersFor (settings : Settings) (source : String) : List Logger :=
  (namesAbove source).map (fun name => (settings.loggers.get? name).getD .plain) ++ [settings.root]

/-- Whether a source is silenced because no settings are about it. -/
def isSilenced (settings : Settings) (source : String) : Bool :=
  settings.silencesOthers && (namesAbove source).all fun name => !settings.named.contains name

/-- The outlets that a message meets on its way up. -/
def outletsAlong : List Logger → List Outlet
  | [] => []
  | logger :: above => logger.outlets ++ (if logger.passesOn then outletsAlong above else [])

end Settings

/-- The messages held back, and what was written, until a sink breaks down. -/
abbrev Writing := ExceptT SinkFault (StateM (Table (List Message) × List (Stream × String)))

/-- Give a message to a sink. -/
def Sink.take (message : Message) : Sink → Writing Unit
  | .writer target => modify fun (held, lines) =>
    match target.stream, target.format.render? message, target.lineEnd with
    | some stream, some line, some lineEnd => (held, lines ++ [(stream, line ++ lineEnd)])
    | _, _, _ => (held, lines)
  | .buffer name capacity flushWeight target => do
    let (held, lines) ← get
    let waiting := message :: (held.get? name).getD []
    set (held.put name waiting, lines)
    let isFull ← liftExcept (capacity.isReached waiting.length)
    let isDue ← if isFull then pure true
      else liftExcept (flushWeight.isReached message.level.weight)
    match target with
    | some target =>
      if isDue then
        waiting.reverse.forM fun message => target.take message
        modify fun (held, lines) => (held.put name [], lines)
    | none => pure ()
  | .unwritten => throw .unwritten
where
  /-- A result that may be a fault. -/
  liftExcept {α : Type} (result : Except SinkFault α) : Writing α := ExceptT.mk (pure result)

namespace Settings

/-- The lines that a message becomes and the settings after it, and the fault of a sink that broke
down on it. Without any sink, warnings and worse still show. -/
def linesOf (settings : Settings) (message : Message) :
    List (Stream × String) × Settings × Option SinkFault :=
  let loggers := settings.loggersFor message.source
  let weight : Int := message.level.weight
  let threshold := ((loggers.map Logger.threshold).find? (· != 0)).getD 0
  if settings.isSilenced message.source || weight < threshold then ([], settings, none)
  else match outletsAlong loggers with
    | [] =>
      (if (Level.warning.weight : Int) ≤ weight then [(.err, message.text ++ "\n")] else [],
       settings, none)
    | outlets =>
      let taking := outlets.filter fun outlet => outlet.threshold ≤ weight
      let (result, held, lines) := (taking.forM fun outlet => outlet.sink.take message).run
        (settings.held, [])
      let fault := match result with
        | .ok _ => none
        | .error fault => some fault
      (lines, { settings with held }, fault)

end Settings

/-- The logger that a name stands for: all are under the main logger. Only a text that is not empty
names one. -/
def loggerName? : Document → Option String
  | .scalar (.string name) =>
    if name.isEmpty then none
    else if name = Settings.mainLogger
        || (Settings.mainLogger ++ ".").toList.isPrefixOf name.toList then
      some name
    else some (Settings.mainLogger ++ "." ++ name)
  | _ => none

/-- What is reported of a name that stands for no logger. -/
def loggerNameMessage : String := "logger name must be a non-empty string"

end TreeScript.Log
