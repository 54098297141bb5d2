import TreeScript.Document.Basic
import TreeScript.Text.Quoted

/-! # Documents shown in messages -/

namespace TreeScript

/-- How messages spell the special doubles. -/
def messageNames : SpecialNames := ⟨"nan", "inf"⟩

namespace Scalar

/-- A scalar as messages quote it. -/
def display : Scalar → String
  | null => "None"
  | bool value => if value then "True" else "False"
  | int value => Number.integerText value
  | float value => value.text messageNames
  | string text => SourceText.quote text
  | date value => value.display
  | moment value => value.display

/-- A scalar as plain text: a text stands for itself. -/
def plain : Scalar → String
  | string text => text
  | date value => value.text
  | moment value => value.text
  | other => other.display

/-- The word for the kind of a scalar. -/
def kindName : Scalar → String
  | null => "NoneType"
  | bool _ => "bool"
  | int _ => "int"
  | float _ => "float"
  | string _ => "str"
  | date _ => "datetime.date"
  | moment _ => "datetime.datetime"

end Scalar

namespace Document

mutual

/-- A document as messages quote it. -/
def display : Document → String
  | scalar value => value.display
  | list items => "[" ++ ", ".intercalate (displayItems items) ++ "]"
  | mapping entries => "\x7b" ++ ", ".intercalate (displayEntries entries) ++ "\x7d"

def displayItems : List Document → List String
  | [] => []
  | item :: rest => item.display :: displayItems rest

def displayEntries : List (Scalar × Document) → List String
  | [] => []
  | (key, value) :: rest => (key.display ++ ": " ++ value.display) :: displayEntries rest

end

/-- A document as plain text: a text stands for itself. -/
def plain : Document → String
  | scalar value => value.plain
  | other => other.display

/-- The word for the kind of a document. -/
def kindName : Document → String
  | scalar value => value.kindName
  | list _ => "list"
  | mapping _ => "dict"

end Document

end TreeScript
