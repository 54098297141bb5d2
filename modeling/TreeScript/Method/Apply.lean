import TreeScript.Exec
import TreeScript.Method.Basic
import TreeScript.Method.Slice

/-! # Methods applied to values

Texts, arrays and numbers have fixed methods. The methods of an object are its entries that are
functions. Methods that call functions are given the way to call one.
-/

namespace TreeScript

/-- A way to call a function with arguments. -/
abbrev Caller := FunctionRef → List Value → Exec Value

namespace TextMethod

/-- A bound of a slice; an undefined bound stands for the given end of the text. -/
def bound (length ending : Nat) (value : Value) : Exec Nat :=
  if value.isUndefined then return ending
  else do
    let quantity ← Exec.quantityOf value
    return Slice.position length quantity.toNumber

def apply (method : TextMethod) (target : String) (args : List Value) : Exec Value :=
  match method with
  | length => return .int target.length
  | toUpperCase => return .string (upperCase target)
  | toLowerCase => return .string (lowerCase target)
  | slice => do
    let start ← bound target.length 0 (args.getD 0 .undefined)
    let stop ← bound target.length target.length (args.getD 1 .undefined)
    return .string (Slice.cut target start stop)
  | parseInt => do
    Exec.ensureReadable (Numeral.leadingDecimals target)
    return .number (Numeral.leadingInteger target)
  | parseFloat => return .number (.float (Numeral.leadingDouble target))

end TextMethod

namespace ArrayMethod

def name : ArrayMethod → String
  | length => "length"
  | push => "push"
  | pop => "pop"
  | map => "map"
  | filter => "filter"

/-- The function given to a method that calls one. -/
def callback (method : ArrayMethod) (args : List Value) : Exec FunctionRef :=
  match args.getD 0 .undefined with
  | .function ref => return ref
  | other => Exec.fail (.notCallable (method.name ++ " callback (" ++ other.describe ++ ")"))

/-- Apply a method to an array. Mapping and filtering go over the elements that the array has when
the method is called, whatever the callback does to it. -/
def apply (call : Caller) (method : ArrayMethod) (target : ArrayRef) (args : List Value) :
    Exec Value :=
  match method with
  | length => do
    let elements ← Exec.read (·.elements target)
    return .int elements.size
  | push => do
    Exec.change (·.updateArray target (· ++ args.toArray))
    let elements ← Exec.read (·.elements target)
    return .int elements.size
  | pop => do
    let last? ← Exec.read fun store => (store.elements target).back?
    Exec.change (·.updateArray target Array.pop)
    return last?.getD .undefined
  | map => do
    let ref ← method.callback args
    let elements ← Exec.read (·.elements target)
    let results ← Exec.each (fun element => call ref [element]) elements.toList
    Exec.newArray results.toArray
  | filter => do
    let ref ← method.callback args
    let elements ← Exec.read (·.elements target)
    let kept ← Exec.each (fun element => do
      let verdict ← call ref [element]
      let keep ← Exec.ofArithmetic verdict.isTruthy
      return if keep then [element] else []) elements.toList
    Exec.newArray kept.flatten.toArray

end ArrayMethod

namespace NumberMethod

def apply (method : NumberMethod) (target : Value) : Exec Value :=
  match method with
  | toString => do
    return .string (← Exec.textOf target)

end NumberMethod

/-- Apply a method, given by its name, to a value. -/
def applyMethod (call : Caller) (target : Value) (method : String) (args : List Value) :
    Exec Value :=
  match target with
  | .undefined | .null => Exec.fail (.nullAccess (.method method))
  | .string text =>
    match TextMethod.ofName? method with
    | some known => known.apply text args
    | none => Exec.fail (.unknownMethod "string" method)
  | .array ref =>
    match ArrayMethod.ofName? method with
    | some known => known.apply call ref args
    | none => Exec.fail (.unknownMethod "array" method)
  | .number _ | .bigint _ =>
    match NumberMethod.ofName? method with
    | some known => known.apply target
    | none => Exec.fail (.unknownMethod "number" method)
  | .object ref => do
    let entries ← Exec.read (·.entries ref)
    match entries.get? method with
    | some (.function function) => call function args
    | _ => Exec.fail (.unknownMethod "object" method)
  | other => Exec.fail (.unknownMethod other.describe method)

end TreeScript
