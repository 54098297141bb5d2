import TreeScript.Config
import TreeScript.Log.Settings

/-! # Log settings in a document

A document names formats, sinks and loggers; a part that it leaves out has its default. Formats are
set up in the order in which they are written, sinks in the order of their names, and then the
loggers. The first thing that cannot be set up decides the error.

A text with the mark `ext` stands for something that is there without being set up, such as a
stream; one with the mark `cfg` stands for another place of the document.
-/

namespace TreeScript.Log

/-- Why a marked text leads nowhere. -/
inductive Dangling where
  | noExternal (name : String)
  | noPlace (key : String)
  /-- A place that cannot be read, from some point on. -/
  | badPlace (place : String) (rest : Option String)
  /-- Places that lead to each other. -/
  | endless

def Dangling.message : Dangling → String
  | noExternal name =>
    let parts := name.splitOn "."
    let missing := match parts with
      | "sys" :: part :: _ => SourceText.quote ("sys." ++ part) ++ "; 'sys' is not a package"
      | "logging" :: part :: _ => SourceText.quote ("logging." ++ part)
      | _ => SourceText.quote (parts.headD "")
    if name.isEmpty then "Empty module name"
    else "Cannot resolve " ++ SourceText.quote name ++ ": No module named " ++ missing
  | noPlace key => SourceText.quote key
  | badPlace place none => "Unable to convert " ++ SourceText.quote place
  | badPlace place (some rest) =>
    "Unable to convert " ++ SourceText.quote place ++ " at " ++ SourceText.quote rest
  | endless => "maximum recursion depth exceeded"

/-- Why settings cannot be used. Names are as messages quote them. -/
inductive SettingsError where
  | noVersion
  | unsupportedVersion (version : Document)
  | badFormat (name : String)
  | badSink (name : String)
  | badLogger (name : String)
  | badRoot
  | unknownLevel (name : String)
  | dangling (cause : Dangling)
  | broken (cause : Breakdown)

def SettingsError.message : SettingsError → String
  | noVersion => "dictionary doesn't specify a version"
  | unsupportedVersion version => "Unsupported version: " ++ version.plain
  | badFormat name => "Unable to configure formatter " ++ name
  | badSink name => "Unable to configure handler " ++ name
  | badLogger name => "Unable to configure logger " ++ name
  | badRoot => "Unable to configure root logger"
  | unknownLevel name => "Unknown level: " ++ SourceText.quote name
  | dangling cause => cause.message
  | broken cause => cause.message

/-- The kinds of sinks that can be set up. -/
inductive SinkKind where
  | stream
  | none
  | stderr
  | file (parameters : List String)
  | buffer
  | unwritten
  deriving DecidableEq

/-- What is there without being set up. -/
inductive External where
  | stream (target : Stream)
  | sinkKind (kind : SinkKind)
  | formatKind
  /-- Something of no use here. -/
  | other
  deriving DecidableEq

/-- What a setting stands for. -/
inductive Setting where
  | document (value : Document)
  | external (thing : External)

namespace Setting

def isTruthy : Setting → Bool
  | document value => value.isTruthy
  | external _ => true

end Setting

/-- The constants of the log by name. -/
def constant? : String → Option Document
  | "BASIC_FORMAT" => some (.string "%(levelname)s:%(name)s:%(message)s")
  | "raiseExceptions" => some (.scalar (.bool true))
  | name => (weight? name).map fun weight => .scalar (.int weight)

/-- What an external name stands for, if anything. -/
def external? (name : String) : Option Setting :=
  match name with
  | "sys.stdout" => some (.external (.stream .out))
  | "sys.stderr" => some (.external (.stream .err))
  | "sys.__stdout__" | "sys.__stderr__" | "sys.stdin" | "sys" | "logging" | "logging.handlers"
  | "logging.Filter" | "logging.Logger" | "logging.getLogger"
  | "logging.LoggerAdapter" | "logging.BufferingFormatter" | "logging.lastResort"
  | "logging.root" => some (.external .other)
  | "logging.Formatter" => some (.external .formatKind)
  | "logging.StreamHandler" => some (.external (.sinkKind .stream))
  | "logging.Handler" => some (.external (.sinkKind .unwritten))
  | "logging.NullHandler" => some (.external (.sinkKind .none))
  | "logging._StderrHandler" => some (.external (.sinkKind .stderr))
  | "logging.FileHandler" | "logging.handlers.WatchedFileHandler" =>
    some (.external (.sinkKind (.file ["filename", "mode", "encoding", "delay", "errors"])))
  | "logging.handlers.RotatingFileHandler" =>
    some (.external (.sinkKind (.file
      ["filename", "mode", "maxBytes", "backupCount", "encoding", "delay", "errors"])))
  | "logging.handlers.TimedRotatingFileHandler" =>
    some (.external (.sinkKind (.file
      ["filename", "when", "interval", "backupCount", "encoding", "delay", "utc", "atTime",
       "errors"])))
  | "logging.handlers.MemoryHandler" => some (.external (.sinkKind .buffer))
  | name =>
    match name.splitOn "." with
    | ["logging", constant] => (constant? constant).map Setting.document
    | _ => none

/-! ## Marked texts -/

/-- A text with a mark in front, and its mark. -/
def marked? (text : String) : Option (String × String) :=
  let cs := text.toList
  let mark := cs.takeWhile fun c => 'a' ≤ c && c ≤ 'z'
  match mark, cs.drop mark.length with
  | _ :: _, ':' :: '/' :: '/' :: rest =>
    if rest.contains '\n' then none else some (String.ofList mark, String.ofList rest)
  | _, _ => none

/-- A step from a part of a document to a part of it. -/
inductive Step where
  | key (name : String)
  | index (name : String)

def isWordChar (c : Char) : Bool := c.isAlphanum || c == '_' || 0x80 ≤ c.toNat

/-- A word with blanks around it, and the rest. -/
def word? (cs : List Char) : Option (String × List Char) :=
  let cs := cs.dropWhile isBlank
  let word := cs.takeWhile isWordChar
  if word.isEmpty then none
  else some (String.ofList word, (cs.drop word.length).dropWhile isBlank)

/-- The first of the steps that a text describes, and the rest. -/
def firstStep? : List Char → Option (Step × List Char)
  | '.' :: rest => do
    let (word, rest) ← word? rest
    return (.key word, rest)
  | '[' :: rest => do
    let (word, rest) ← word? rest
    match rest with
    | ']' :: rest => return (.index word, rest.dropWhile isBlank)
    | _ => none
  | _ => none

/-- The part of a document that a step leads to. -/
def follow (document : Document) (step : Step) : Except Dangling Document :=
  let found := match step with
    | .key name => (name, document.get? name)
    | .index name =>
      (name, match document, Numeral.integer? name.toList with
        | .list items, some n => items[n.toNat]?
        | .mapping entries, some n =>
          (entries.find? fun (key, _) => key.sameKey (.int n)).map (·.2)
        | .mapping entries, none => Document.find? entries name
        | _, _ => none)
  match found with
  | (_, some document) => .ok document
  | (name, none) => .error (.noPlace name)

/-- Follow the steps that a text describes, where `resolve` tells what a part stands for. -/
def followAll (resolve : Document → Except Dangling Setting) (place : String) :
    Nat → Setting → List Char → Except Dangling Setting
  | _, setting, [] => .ok setting
  | 0, _, _ :: _ => .error .endless
  | effort + 1, setting, rest =>
    match firstStep? rest, setting with
    | some (step, rest), .document document => do
      followAll resolve place effort (← resolve (← follow document step)) rest
    | some (.key name, _), .external _ | some (.index name, _), .external _ =>
      .error (.noPlace name)
    | none, _ => .error (.badPlace place (some (String.ofList rest)))

/-- What a setting stands for in a document. -/
def convert (whole : Document) : Nat → Document → Except Dangling Setting
  | 0, _ => .error .endless
  | effort + 1, document =>
    match document with
    | .scalar (.string text) =>
      match marked? text with
      | some ("ext", name) =>
        match external? name with
        | some setting => .ok setting
        | none => .error (.noExternal name)
      | some ("cfg", place) =>
        match word? place.toList with
        | none => .error (.badPlace place none)
        | some (first, rest) => do
          let start ← convert whole effort (← follow whole (.key first))
          followAll (convert whole effort) place (rest.length + 1) start rest
      | _ => .ok (.document document)
    | _ => .ok (.document document)

/-- How often a mark may lead to another one. -/
def markLimit : Nat := 100

/-- What a setting stands for in a document; none if its mark leads nowhere. -/
def convert? (whole document : Document) : Option Setting :=
  (convert whole markLimit document).toOption

/-- The setting under a name, which is null if it is missing. -/
def setting? (whole : Document) (entries : List (Scalar × Document)) (name : String) :
    Option Setting :=
  convert? whole ((Document.find? entries name).getD .null)

/-- The settings that are passed on to what is set up: those with a proper name, apart from the
given ones. -/
def parameters? (entries : List (Scalar × Document)) (taken : List String) :
    Option (List (String × Document)) :=
  let isName (text : String) : Bool :=
    let cs := text.toList
    let isStart (c : Char) : Bool := c.isAlpha || c == '_'
    cs.head?.any isStart && cs.all fun c => c.isAlphanum || c == '_'
  let rest := entries.filter fun (key, _) => !("." :: taken).any fun name => key == .string name
  rest.mapM fun
    | (.string name, value) => if isName name then some (name, value) else none
    | _ => none

/-! ## Formats -/

/-- A format from its text, the style and how times are shown. -/
def formatWith? (format dateFormat style : Setting) (validates : Bool) : Option Format := do
  let style ← match style with
    | .document (.scalar (.string name)) => Style.ofName? name
    | _ => none
  let text ← match format with
    | .document (.scalar (.string text)) => some (if text.isEmpty then style.bare else text)
    | other => if other.isTruthy then none else some style.bare
  if validates && !style.isFormat text then none
  let dateFormat := match dateFormat with
    | .document (.scalar (.string text)) => some text
    | _ => none
  return ⟨style, text, dateFormat⟩

/-- What makes a sink or a format, by name or by a marked text. -/
def factory? : Setting → Option External
  | .external thing => some thing
  | .document (.scalar (.string name)) =>
    match external? name with
    | some (.external thing) => some thing
    | _ => none
  | _ => none

/-- A format made by an external thing with parameters of its own names. -/
def customFormat? (whole : Document) (entries : List (Scalar × Document)) : Option Format := do
  let factory ← factory? (← setting? whole entries "()")
  let parameters ← parameters? entries ["()"]
  let known := ["format", "fmt", "datefmt", "style", "validate", "defaults"]
  if factory ≠ .formatKind || !parameters.all fun (name, _) => known.contains name then none
  let get (name : String) (default : Document) : Option Setting :=
    convert? whole ((parameters.lookup name).getD default)
  let name := if (parameters.lookup "format").isSome then "format" else "fmt"
  let validates ← get "validate" (.scalar (.bool true))
  formatWith? (← get name .null) (← get "datefmt" .null) (← get "style" (.string "%"))
    validates.isTruthy

/-- The format that a setting describes. -/
def formatOf? (whole : Document) : Document → Option Format
  | .mapping entries => do
    if (Document.find? entries "()").isSome then customFormat? whole entries
    else
      let kind ← setting? whole entries "class"
      if kind.isTruthy then
        match kind with
        | .document _ => if factory? kind ≠ some .formatKind then none
        | .external _ => none
      let style ← match Document.find? entries "style" with
        | some style => convert? whole style
        | none => some (.document (.string "%"))
      let validates ← match Document.find? entries "validate" with
        | some setting => (convert? whole setting).map Setting.isTruthy
        | none => some true
      formatWith? (← setting? whole entries "format") (← setting? whole entries "datefmt") style
        validates
  | _ => none

/-! ## Sinks -/

/-- The weight that a setting gives, `unset` if it gives none. -/
def weightOf? (unset : Int) : Setting → Option Int
  | .document (.scalar .null) => some unset
  | .document (.scalar (.string name)) => weight? name
  | .document (.scalar (.int n)) => some n
  | .document (.scalar (.bool value)) => some (if value then 1 else 0)
  | _ => none

/-- A part of the settings that was set up, by its key. -/
abbrev Parts (α : Type) := List (Scalar × α)

def Parts.get? {α : Type} (parts : Parts α) (key : Scalar) : Option α :=
  (parts.find? fun (other, _) => other.sameKey key).map (·.2)

/-- Whether a file can be opened for writing: it is in the current directory, or throws all away. -/
def isWritable (path : String) : Bool :=
  path == "/dev/null" || (path != "" && path != "." && path != ".."
    && !path.toList.contains '/' && !path.toList.contains (Char.ofNat 0))

/-- A setting as a number to compare with. -/
def limitOf : Setting → Limit
  | .document (.scalar (.int n)) => .number (.int n)
  | .document (.scalar (.float d)) => .number (.float d)
  | .document (.scalar (.bool value)) => .number (.int (if value then 1 else 0))
  | .document (.scalar value) => .unfit value.kindName
  | .document (.list _) => .unfit "ConvertingList"
  | .document (.mapping _) => .unfit "ConvertingDict"
  | .external _ => .unfit "type"

/-- A sink before it is given a threshold. -/
def bareSink? (whole : Document) (sinks : Parts Outlet) (name : String) (format : Format)
    (kind : SinkKind) (parameters : List (String × Document)) : Option Sink := do
  let only (known : List String) : Bool := parameters.all fun (name, _) => known.contains name
  let parameter (name : String) : Option Setting :=
    convert? whole ((parameters.lookup name).getD .null)
  let lineEnd := some "\n"
  match kind with
  | .stream =>
    if !only ["stream"] then none
    let stream ← match ← parameter "stream" with
      | .document (.scalar .null) => some (some Stream.err)
      | .external (.stream stream) => some (some stream)
      | _ => some none
    return .writer ⟨stream, format, lineEnd⟩
  | .stderr => if only [] then some (.writer ⟨some .err, format, lineEnd⟩) else none
  | .unwritten => if only [] then some .unwritten else none
  | .none => if only [] then some (.writer ⟨none, format, lineEnd⟩) else none
  | .file known =>
    if !only known then none
    match ← parameter "filename" with
    | .document (.scalar (.string path)) =>
      if (← parameter "delay").isTruthy || isWritable path then
        some (.writer ⟨none, format, lineEnd⟩)
      else none
    | _ => none
  | .buffer =>
    if !only ["capacity", "flushLevel", "target", "flushOnClose"] then none
    let capacity ← (← parameters.lookup "capacity" |>.map (convert? whole))
    let flushWeight ← match parameters.lookup "flushLevel" with
      | none => some (.document (.scalar (.int 40)))
      | some setting => convert? whole setting
    let target ← match parameters.lookup "target" with
      | none => some none
      | some setting =>
        match ← convert? whole setting with
        | .document (.scalar key) => (sinks.get? key).map fun outlet => some outlet.sink
        | _ => none
    return .buffer name (limitOf capacity) (limitOf flushWeight) target

/-- A sink with properties that are set on it afterwards; their names are texts. -/
def withProperties? (sink : Sink) (properties : Setting) : Option Sink :=
  if !properties.isTruthy then some sink
  else match properties with
    | .document (.mapping entries) =>
      entries.foldlM (fun sink (key, value) =>
        match sink, key, value with
        | .writer writer, .string "terminator", .scalar (.string text) =>
          some (.writer { writer with lineEnd := some text })
        | .writer writer, .string "terminator", _ => some (.writer { writer with lineEnd := none })
        | sink, .string _, _ => some sink
        | _, _, _ => none) sink
    | _ => none

/-- The format that the settings of a sink name. -/
def formatFor? (whole : Document) (formats : Parts Format) (entries : List (Scalar × Document)) :
    Option Format := do
  let name ← setting? whole entries "formatter"
  if name.isTruthy then
    match name with
    | .document (.scalar key) => formats.get? key
    | _ => none
  else return Format.bare

/-- Whether a setting asks for filters. -/
def asksForFilters (setting : Setting) : Bool :=
  match setting with
  | .external (.stream _) => false
  | _ => setting.isTruthy

/-- The sink that a setting describes, given the formats and the sinks so far. -/
def sinkOf? (whole : Document) (formats : Parts Format) (sinks : Parts Outlet) (name : String) :
    Document → Option Outlet
  | .mapping entries => do
    let format ← formatFor? whole formats entries
    let filters ← setting? whole entries "filters"
    let isCustom := (Document.find? entries "()").isSome
    let kindName := if isCustom then "()" else "class"
    let setting ← setting? whole entries kindName
    let kind ← match setting, factory? setting with
      | .external _, some (.sinkKind kind) => if isCustom then some kind else none
      | .document _, some (.sinkKind kind) => some kind
      | _, _ => none
    let parameters ← parameters? entries ["formatter", "level", "filters", kindName]
    let sink ← bareSink? whole sinks name format kind parameters
    let threshold ← weightOf? 0 (← setting? whole entries "level")
    if asksForFilters filters then none
    let sink ← withProperties? sink (← setting? whole entries ".")
    return ⟨threshold, sink⟩
  | _ => none

/-! ## Loggers -/

/-- The names in a setting that lists them: items, keys, or the characters of a text. -/
def namesIn? : Setting → Option (List Document)
  | .document (.list items) => some items
  | .document (.mapping entries) => some (entries.map fun (key, _) => .scalar key)
  | .document (.scalar (.string text)) =>
    some (text.toList.map fun c => .string (String.ofList [c]))
  | .external (.stream _) => some []
  | _ => none

/-- The sinks that are named, each of them once. -/
def outletsOf? (sinks : Parts Outlet) (names : List Document) : Option (Parts Outlet) :=
  names.foldlM (fun (found : Parts Outlet) name =>
    match name with
    | .scalar key =>
      if (found.get? key).isSome then some found
      else (sinks.get? key).map fun outlet => found ++ [(key, outlet)]
    | _ => none) []

/-- The logger that a setting describes, given the sinks. `passing` names the setting for what it
does with messages for the loggers above. -/
def loggerOf? (whole : Document) (base : Logger) (sinks : Parts Outlet) (passing : Option String) :
    Document → Option Logger
  | .mapping entries => do
    let threshold ← weightOf? base.threshold (← setting? whole entries "level")
    let handlers ← setting? whole entries "handlers"
    let outlets ←
      if handlers.isTruthy then outletsOf? sinks (← namesIn? handlers) else some []
    let filters ← setting? whole entries "filters"
    if asksForFilters filters then none
    let passesOn ← match passing with
      | none => some base.passesOn
      | some name =>
        match ← setting? whole entries name with
        | .document (.scalar .null) => some base.passesOn
        | setting => some setting.isTruthy
    return ⟨threshold, outlets.map (·.2), passesOn⟩
  | _ => none

/-- Whether a key names the logger above all others. -/
def namesRoot (key : Scalar) : Bool := key == .string "root" || !(Document.scalar key).isTruthy

/-! ## The whole -/

namespace Settings

/-- The settings in a part, by their keys. Lists and texts have no settings under what they hold,
which shows at the item that comes first; other scalars hold nothing. -/
def entriesOf (report : String → SettingsError)
    (first : List Document → Except Breakdown (Option Document)) :
    Setting → Except SettingsError (List (Scalar × Document))
  | .document (.mapping entries) => .ok entries
  | .document (.list items) => refuse items
  | .document (.scalar (.string text)) =>
    refuse (text.toList.map fun c => .string (String.ofList [c]))
  | .document (.scalar other) => .error (.broken (.notIterable other.kindName))
  | .external (.stream _) => .ok []
  | .external _ => .error (.broken (.notIterable "type"))
where
  /-- The report on the item that comes first, if there is one. -/
  refuse (items : List Document) : Except SettingsError (List (Scalar × Document)) :=
    match first items with
    | .ok none => .ok []
    | .ok (some item) => .error (report item.display)
    | .error cause => .error (.broken cause)

/-- The first item in the order of writing. -/
def firstWritten (items : List Document) : Except Breakdown (Option Document) := .ok items.head?

/-- The first item in the order of values. Lists among the items are taken as they are written. -/
def firstSorted (items : List Document) : Except Breakdown (Option Document) := do
  let scalars := items.filterMap fun
    | .scalar value => some value
    | _ => none
  if scalars.length < items.length then return items.head?
  return (← Scalar.sort scalars).head?.map Document.scalar

/-- The setting under a name of the whole document. -/
def topSetting (entries : List (Scalar × Document)) (name : String) (default : Document) :
    Except SettingsError Setting :=
  (convert (.mapping entries) markLimit ((Document.find? entries name).getD default)).mapError
    .dangling

/-- Set up formats in order. A format that is set up is no longer a place in the document. -/
def formatsOf (entries : List (Scalar × Document)) :
    List (Scalar × Document) → Except SettingsError (Parts Format)
  | [] => .ok []
  | (key, setting) :: rest =>
    let whole := Document.mapping (Document.put entries (.string "formatters")
      (.mapping ((key, setting) :: rest)))
    match formatOf? whole setting with
    | some format => do
      return (key, format) :: (← formatsOf entries rest)
    | none => .error (.badFormat key.display)

/-- Whether a sink waits for a target that is described but not set up yet. -/
def isWaiting (whole : Document) (formats : Parts Format) (described : List (Scalar × Document))
    (sinks : Parts Outlet) : Document → Bool
  | .mapping entries =>
    match Document.find? entries "class", Document.find? entries "target" with
    | some (.scalar (.string "logging.handlers.MemoryHandler")), some (.scalar key) =>
      (formatFor? whole formats entries).isSome
        && (described.any fun (other, _) => other.sameKey key) && (sinks.get? key).isNone
    | _, _ => false
  | _ => false

/-- Set up sinks in order; those that wait for others come last. -/
def sinksOf (whole : Document) (formats : Parts Format) (described : List (Scalar × Document)) :
    Except SettingsError (Parts Outlet) := do
  let setUp (sinks : Parts Outlet) (entry : Scalar × Document) :
      Except SettingsError (Parts Outlet) :=
    match sinkOf? whole formats sinks entry.1.display entry.2 with
    | some outlet => .ok (sinks ++ [(entry.1, outlet)])
    | none => .error (.badSink entry.1.display)
  let step (state : Parts Outlet × List (Scalar × Document)) (entry : Scalar × Document) :
      Except SettingsError (Parts Outlet × List (Scalar × Document)) := do
    let (sinks, waiting) := state
    if isWaiting whole formats described sinks entry.2 then return (sinks, waiting ++ [entry])
    else return (← setUp sinks entry, waiting)
  let (sinks, waiting) ← described.foldlM step ([], [])
  waiting.foldlM setUp sinks

/-- The entries of a part in the order of their keys. -/
def sortEntries (entries : List (Scalar × Document)) :
    Except SettingsError (List (Scalar × Document)) := do
  let keys ← (Scalar.sort (entries.map (·.1))).mapError .broken
  return keys.filterMap fun key => entries.find? fun (other, _) => other.sameKey key

/-- Set up a logger by its key. -/
def addLogger (whole : Document) (sinks : Parts Outlet) (settings : Settings)
    (entry : Scalar × Document) : Except SettingsError Settings :=
  let (key, setting) := entry
  if namesRoot key then
    match loggerOf? whole settings.root sinks "propagate" setting with
    | some root => .ok { settings with root }
    | none => .error (.badLogger key.display)
  else match key, loggerOf? whole .plain sinks "propagate" setting with
    | .string name, some logger =>
      .ok { settings with
        loggers := settings.loggers.put name logger
        named := name :: settings.named }
    | _, _ => .error (.badLogger key.display)

/-- The settings that a mapping describes. -/
def ofEntries (entries : List (Scalar × Document)) : Except SettingsError Settings := do
  let whole := Document.mapping entries
  if (Document.find? entries "version").isNone then throw .noVersion
  match ← topSetting entries "version" .null with
  | .document (.scalar version) =>
    if !version.sameKey (.int 1) then throw (.unsupportedVersion (.scalar version))
  | .document version => throw (.unsupportedVersion version)
  | .external _ => throw (.unsupportedVersion .null)
  let silences ← topSetting entries "disable_existing_loggers" (.scalar (.bool true))
  let empty : Document := .mapping []
  let described ← entriesOf .badFormat firstWritten (← topSetting entries "formatters" empty)
  let formats ← formatsOf entries described
  let described ← entriesOf .badSink firstSorted (← topSetting entries "handlers" empty)
  let sinks ← sinksOf whole formats (← sortEntries described)
  let described ← entriesOf .badLogger firstWritten (← topSetting entries "loggers" empty)
  let settings ← described.foldlM (addLogger whole sinks)
    { unset with silencesOthers := silences.isTruthy }
  let root ← topSetting entries "root" .null
  if !root.isTruthy then return settings
  match root with
  | .document setting =>
    match loggerOf? whole settings.root sinks none setting with
    | some root => return { settings with root }
    | none => throw .badRoot
  | .external _ => throw .badRoot

/-- The format of log lines by default. -/
def defaultFormat : String := "%(asctime)s | %(levelname)-8s | %(name)s | %(message)s"

/-- A mapping with text keys. -/
def mappingOf (entries : List (String × Document)) : Document :=
  .mapping (entries.map fun (name, value) => (.string name, value))

/-- The parts of the default settings. -/
def defaultEntries : List (Scalar × Document) :=
  [(.string "version", .scalar (.int 1)),
   (.string "disable_existing_loggers", .scalar (.bool false)),
   (.string "formatters", mappingOf [("standard", mappingOf [("format", .string defaultFormat)])]),
   (.string "handlers", mappingOf [("console", mappingOf
     [("class", .string "logging.StreamHandler"), ("stream", .string "ext://sys.stderr"),
      ("formatter", .string "standard")])]),
   (.string "loggers", mappingOf [("intrear", mappingOf
     [("level", .string "WARNING"), ("handlers", .list [.string "console"]),
      ("propagate", .scalar (.bool false))])])]

/-- The parts that a document may set. -/
def partNames : List String :=
  ["version", "disable_existing_loggers", "formatters", "handlers", "root", "loggers"]

/-- The settings of a document over the default ones; one that is no mapping changes nothing. -/
def ofDocument : Document → Except SettingsError Settings
  | .mapping entries =>
    let known := entries.filter fun (key, _) => partNames.any fun name => key == .string name
    ofEntries (known.foldl (fun all (key, value) => Document.put all key value) defaultEntries)
  | _ => ofEntries defaultEntries

/-- Set the level of the main logger. -/
def setLevel (settings : Settings) (name : String) : Except SettingsError Settings :=
  match settings.setLevel? name with
  | some settings => .ok settings
  | none => .error (.unknownLevel name)

end Settings

end TreeScript.Log
