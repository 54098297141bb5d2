import TreeScript.Text.Casing.Context
import TreeScript.Text.Casing.Runs

/-! # Upper and lower case of text

Case mapping is the full mapping of Unicode without locale rules: some characters have an
upper-case form of several characters, and the lower-case form of a capital sigma depends on its
place in the word.
-/

namespace TreeScript

/-- The first mapping of a code point among the runs. -/
def applyRuns (runs : List CaseRun) (c : Char) : Char :=
  match runs.findSome? (·.image? c.toNat) with
  | some code => Char.ofNat code
  | none => c

/-- The upper-case form of a character. -/
def upperOf (c : Char) : List Char :=
  match upperExpansions.find? (·.1 == c.toNat) with
  | some (_, codes) => codes.map Char.ofNat
  | none => [applyRuns upperRuns c]

/-- Whether the nearest character that is not case-ignorable is cased. -/
def meetsCased (cs : List Char) : Bool :=
  match cs.dropWhile caseIgnorableTable.holds with
  | [] => false
  | c :: _ => casedTable.holds c

/-- The lower-case form of a character between the text before it, last character first, and the
text after it. -/
def lowerOf (before : List Char) (c : Char) (after : List Char) : List Char :=
  if c = 'Σ' then [if meetsCased before && !meetsCased after then 'ς' else 'σ']
  else if c = 'İ' then ['i', '\u0307']
  else [applyRuns lowerRuns c]

/-- The lower-case form of a text that follows `before`, given last character first. -/
def lowerAfter (before : List Char) : List Char → List Char
  | [] => []
  | c :: after => lowerOf before c after ++ lowerAfter (c :: before) after

def upperCase (text : String) : String := String.ofList (text.toList.flatMap upperOf)

def lowerCase (text : String) : String := String.ofList (lowerAfter [] text.toList)

end TreeScript
