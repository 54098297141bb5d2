import TreeScript.Log.Brace
import TreeScript.Log.Dollar
import TreeScript.Log.Percent

/-! # Formats of log lines

A format is a text with fields in one of three styles. One that fits its style may still name a
field that a message does not have, or ask for it in a way that does not fit; then it gives no line.
-/

namespace TreeScript.Log

inductive Style where
  | percent
  | brace
  | dollar
  deriving DecidableEq

namespace Style

def ofName? : String → Option Style
  | "%" => some percent
  | "\x7b" => some brace
  | "$" => some dollar
  | _ => none

/-- The format that shows the message alone. -/
def bare : Style → String
  | percent => "%(message)s"
  | brace => "\x7bmessage\x7d"
  | dollar => "$\x7bmessage\x7d"

/-- Whether a text is a format of a style. -/
def isFormat (style : Style) (text : String) : Bool :=
  match style with
  | percent => Percent.hasField text.toList
  | brace => Brace.isValid text
  | dollar => Dollar.isValid text

end Style

/-- A format for log lines. -/
structure Format where
  style : Style
  text : String
  /-- How times are shown. -/
  dateFormat : Option String

namespace Format

/-- The format that shows the message alone. -/
def bare : Format := ⟨.percent, Style.percent.bare, none⟩

/-- The line that a message becomes. -/
def render? (format : Format) (message : Message) : Option String :=
  let field? := message.field? format.dateFormat
  match format.style with
  | .percent => Percent.render? field? format.text
  | .brace => Brace.render? field? format.text
  | .dollar => Dollar.render? field? format.text

end Format

end TreeScript.Log
