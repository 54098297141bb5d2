import TreeScript.Exec
import TreeScript.Numeric.Numeral
import TreeScript.Text.Digit

/-! # Elements and properties

Arrays and texts are read by position or by the name `length`; a text of digits is a position too.
Objects are read by name. What is not there reads as undefined.
-/

namespace TreeScript

-- Powers are those of the core library, whatever else is in scope.
attribute [local instance (high)] instPowNat

/-- Whether a text is made of digits, of any script and style. -/
def isDigits (text : String) : Bool := !text.isEmpty && text.toList.all isAnyDigit

/-- The position that a key denotes. -/
def positionOf? (key : Value) : Exec (Option Nat) :=
  match key with
  | .string text =>
    if isDigits text then do
      Exec.ensureReadable (Numeral.spanDecimals text.toList).1.length
      match Numeral.integer? text.toList with
      | some n => Exec.ofArithmetic (Number.int n).toIndex?
      | none => Exec.crash (.invalidInteger (.notDecimal text))
    else return none
  | .number n => Exec.ofArithmetic n.toIndex?
  | _ => return none

/-- Read an item of a sequence by a key. -/
def readItem (size : Nat) (item : Nat → Value) (key : Value) : Exec Value :=
  if key = .string "length" then return .int size
  else do
    match ← positionOf? key with
    | some position => return if position < size then item position else .undefined
    | none => return .undefined

/-- Read a property of a value other than null and undefined. -/
def readProperty (target key : Value) : Exec Value :=
  match target with
  | .object ref => do
    let name ← match key with
      | .string text => pure text
      | other => Exec.textOf other
    let entries ← Exec.read (·.entries ref)
    return (entries.get? name).getD .undefined
  | .array ref => do
    let elements ← Exec.read (·.elements ref)
    readItem elements.size (elements.getD · .undefined) key
  | .string text =>
    let chars := text.toList
    let item (position : Nat) : Value := .string (String.ofList ((chars.drop position).take 1))
    readItem chars.length item key
  | _ => return .undefined

/-- The largest number of elements that an array can grow by. -/
def maximalGap : Nat := 2 ^ (63 : Nat) - 1

/-- Write a value at a position, filling a gap before it with undefined. -/
def writeAt (position : Nat) (value : Value) (elements : Array Value) : Array Value :=
  let padded := elements ++ Array.replicate (position + 1 - elements.size) Value.undefined
  padded.setIfInBounds position value

/-- Write a value at an index of an array. -/
def writeElement (target index value : Value) : Exec Value :=
  match target with
  | .array ref =>
    match index with
    | .number n => do
      match ← Exec.ofArithmetic n.toIndex? with
      | some position =>
        let elements ← Exec.read (·.elements ref)
        let gap := position + 1 - elements.size
        let host ← Exec.host
        if maximalGap < gap then Exec.crash .gapTooLarge
        else if host.room < gap then Exec.crash .outOfMemory
        else
          Exec.change (·.updateArray ref (writeAt position value))
          return value
      | none => Exec.fail (.indexNotNatural n.text)
    | other => Exec.fail (.indexNotNumber other)
  | other => Exec.fail (.notAnArray other)

end TreeScript
