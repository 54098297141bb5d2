import TreeScript.Exec
import TreeScript.Resource.Fetch

/-! # Calls of the built-in functions -/

namespace TreeScript.Builtin

/-- Apply a function of finite numbers to a quantity; NaN and the infinities stand for themselves.
-/
def onFinite (whole : Int → Int) (finite : Binary64 → Value) : Quantity → Value
  | .bigint n => .int (whole n)
  | .number (.int n) => .int (whole n)
  | .number (.float d) => if d.isNaN || d.isInfinite then .number (.float d) else finite d

/-- The square root of a number as a double; NaN for negative numbers. -/
def squareRoot (n : Number) : Except ArithmeticFault Binary64 := do
  let d ← n.toBinary64
  return if n.isNegative then .nan else d.sqrt

/-- Fetch a text, reporting what happens. -/
def fetchText (address : String) : Exec Value := do
  let host ← Exec.host
  Exec.record (.fetchStarted address host.fetchTimeout)
  match Resource.fetch host.files host.transport address with
  | .ok text => return .string text
  | .error (.failed cause) => do
    Exec.record (.fetchFailed address cause.message)
    Exec.fail (.host "fetch" cause.message)
  | .error (.fault cause) => Exec.crash cause

/-- Ask the outside world for its next answer. -/
def request (answer : Host → Nat → Value) : Exec Value := fun host store =>
  .done (answer host store.requests) { store with requests := store.requests + 1 }

/-- What a built-in does once it has its arguments; a missing argument is undefined. -/
def perform (function : Builtin) (args : List Value) : Exec Value :=
  let arg := args.getD 0 .undefined
  match function with
  | print => do
    let texts ← Exec.each Exec.textOf args
    Exec.change (·.write (" ".intercalate texts ++ "\n"))
    return .undefined
  | typeOf => return .string arg.kind.name
  | now => request fun host n => .int (host.clock n)
  | random => request fun host n => .number (.float (host.random n))
  | isNaN => do
    let quantity ← Exec.quantityOf arg
    return .bool quantity.toNumber.isNaN
  | abs => do
    let quantity ← Exec.quantityOf arg
    return onFinite (fun n => n.natAbs) (fun d => .number (.float d.abs)) quantity
  | sqrt => do
    let quantity ← Exec.quantityOf arg
    return .number (.float (← Exec.ofArithmetic (squareRoot quantity.toNumber)))
  | floor => do
    let quantity ← Exec.quantityOf arg
    return onFinite id (fun d => .int (d.floor?.getD 0)) quantity
  | ceil => do
    let quantity ← Exec.quantityOf arg
    return onFinite id (fun d => .int (d.ceil?.getD 0)) quantity
  | fetch => do
    let address ← Exec.textOf arg
    fetchText address

/-- Call a built-in; more arguments than it takes are a fault. -/
def call (function : Builtin) (args : List Value) : Exec Value :=
  match function.arity? with
  | some arity =>
    if args.length ≤ arity then function.perform args
    else Exec.crash (.tooManyArguments function args.length)
  | none => function.perform args

end TreeScript.Builtin
