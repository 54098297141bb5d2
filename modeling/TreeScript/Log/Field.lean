import TreeScript.Document.Display
import TreeScript.Journal
import TreeScript.Log.Time

/-! # What a log line can show

A message has fields that a format names: texts, numbers, and the arguments that were filled into
the text of the message.
-/

namespace TreeScript.Log

/-- The value of a field. -/
inductive Field where
  | text (value : String)
  | whole (value : Int)
  | real (value : Binary64)
  | path (value : String)
  /-- Something shown in one way only. -/
  | bare (value : String)
  | nothing
  | list (items : List Field)

namespace Field

mutual

/-- A field as messages quote it. -/
def display : Field → String
  | text value => SourceText.quote value
  | whole value => Number.integerText value
  | real value => value.text messageNames
  | path value => "PosixPath(" ++ SourceText.quote value ++ ")"
  | bare value => value
  | nothing => "None"
  | list [item] => "(" ++ item.display ++ ",)"
  | list items => "(" ++ ", ".intercalate (displays items) ++ ")"

def displays : List Field → List String
  | [] => []
  | item :: rest => item.display :: displays rest

end

/-- A field as plain text: a text stands for itself. -/
def plain : Field → String
  | text value | path value => value
  | other => other.display

/-- A field as messages quote it, in printable ASCII only. -/
def ascii (field : Field) : String :=
  String.ofList (field.display.toList.flatMap fun c =>
    if c.toNat < 0x80 then [c] else SourceText.escapeCode c.toNat)

end Field

/-- What a log line is made of. -/
structure Message where
  clock : Clock
  level : Level
  /-- The logger that the message was given to. -/
  source : String
  text : String
  /-- The text before arguments were filled in. -/
  template : String
  arguments : List Field
  origin : Origin

namespace Message

/-- The message about an event. -/
def ofEvent (clock : Clock) (event : Event) : Message where
  clock := clock
  level := event.level
  source := event.source
  text := event.message
  template := event.template
  arguments := event.arguments.map fun
    | .number n => .whole n
    | .text value => .text value
    | .path value => .path value
    | .plain value => .bare value
  origin := event.origin

/-- The value of a field by its name, where times are shown as `dateFormat` says. -/
def field? (message : Message) (dateFormat : Option String) (name : String) : Option Field :=
  match name with
  | "asctime" => some (.text (message.clock.text dateFormat))
  | "levelname" => some (.text message.level.name)
  | "levelno" => some (.whole message.level.weight)
  | "name" => some (.text message.source)
  | "message" => some (.text message.text)
  | "msg" => some (.text message.template)
  | "args" => some (.list message.arguments)
  | "module" => some (.text message.origin.module)
  | "filename" => some (.text (message.origin.module ++ ".py"))
  | "pathname" => some (.text ("intrear/" ++ message.origin.module ++ ".py"))
  | "funcName" => some (.text message.origin.function)
  | "lineno" => some (.whole message.origin.line)
  | "threadName" => some (.text "MainThread")
  | "processName" => some (.text "MainProcess")
  | "thread" | "process" => some (.whole 1)
  | "created" => some (.real (Binary64.ofRatio message.clock.milliseconds 1000))
  | "msecs" => some (.real (Binary64.ofInt (message.clock.milliseconds % 1000)))
  | "relativeCreated" => some (.real (Binary64.ofInt 0))
  | "exc_info" | "exc_text" | "stack_info" => some .nothing
  | _ => none

end Message

end TreeScript.Log
