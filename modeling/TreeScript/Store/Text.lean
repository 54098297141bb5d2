import TreeScript.Numeric.Numeral
import TreeScript.Store.Basic
import TreeScript.Text.Quoted

/-! # Values as text and as numbers

The text of an array is made of the texts of its elements, so an array that contains itself has
none. The descent into arrays is bounded by the number of cells of the store: a descent that goes
deeper meets a cell twice. How deep a host can go down before it gives up is left aside.

A host may limit the digits of an integer. What it has to write out as digits is told by `integers`.
-/

namespace TreeScript

/-- A symbol as text. -/
def Symbol.text (symbol : Symbol) : String := "Symbol(" ++ symbol.description ++ ")"

namespace Store

/-- How deep a value without cycles can be. -/
def depth (store : Store) : Nat := store.arrays.size + store.objects.size + 1

/-- The text of a value whose arrays are nested at most `bound` deep. -/
def textWithin (store : Store) : Nat → Value → Option String
  | _, .undefined => some "undefined"
  | _, .null => some "null"
  | _, .bool value => some (if value then "true" else "false")
  | _, .string text => some text
  | _, .bigint value => some (Number.integerText value)
  | _, .number value => some value.text
  | _, .symbol value => some value.text
  | _, .object _ => some "[object Object]"
  | _, .function ref =>
    some ("[function " ++ ((store.functions[ref]?).map Callable.name).getD "anonymous" ++ "]")
  | 0, .array _ => none
  | bound + 1, .array ref => do
    let texts ← (store.elements ref).toList.mapM fun element =>
      if element.isNullish then some "" else store.textWithin bound element
    return ",".intercalate texts

/-- The text of a value as concatenation and printing show it. -/
def text? (store : Store) (value : Value) : Option String := store.textWithin store.depth value

/-- The integers in a value whose cells are nested at most `bound` deep. Those in an object count only if
objects are written out too. -/
def integersWithin (store : Store) (writesObjects : Bool) : Nat → Value → List Int
  | _, .number (.int n) => [n]
  | _, .bigint n => [n]
  | bound + 1, .array ref => (store.elements ref).toList.flatMap (store.integersWithin writesObjects bound)
  | bound + 1, .object ref =>
    if writesObjects then
      (store.entries ref).flatMap fun (_, value) => store.integersWithin writesObjects bound value
    else []
  | _, _ => []

/-- The integers that have to be written where a value is written out. -/
def integers (store : Store) (writesObjects : Bool) (value : Value) : List Int :=
  store.integersWithin writesObjects store.depth value

end Store

/-- What a value counts as when a number is wanted; big integers stay big integers. -/
inductive Quantity where
  | number (value : Number)
  | bigint (value : Int)

namespace Quantity

def toValue : Quantity → Value
  | number value => .number value
  | bigint value => .bigint value

/-- The number that a quantity stands for. -/
def toNumber : Quantity → Number
  | number value => value
  | bigint value => .int value

end Quantity

namespace Store

/-- The quantity that a value stands for. A text is read as a numeral, an array of one element goes
by the text of that element, and what is no quantity counts as NaN. -/
def quantity? (store : Store) : Value → Option Quantity
  | .undefined => some (.number .nan)
  | .null => some (.number (.int 0))
  | .bool value => some (.number (.int (if value then 1 else 0)))
  | .number value => some (.number value)
  | .bigint value => some (.bigint value)
  | .string text => some (.number (.ofText text))
  | .array ref =>
    match (store.elements ref).toList with
    | [] => some (.number (.int 0))
    | [element] => (store.text? element).map fun text => .number (.ofText text)
    | _ => some (.number .nan)
  | .symbol _ | .object _ | .function _ => some (.number .nan)

/-- The only element of an array of one element. -/
def soleElement? (store : Store) : Value → Option Value
  | .array ref =>
    match (store.elements ref).toList with
    | [element] => some element
    | _ => none
  | _ => none

/-- The integers that have to be written to find the quantity that a value stands for. -/
def integersOfQuantity (store : Store) (value : Value) : List Int :=
  ((store.soleElement? value).map (store.integers false)).getD []

end Store

end TreeScript
