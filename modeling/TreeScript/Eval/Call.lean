import TreeScript.Eval.Basic

/-! # Calls

A call binds the parameters in a new frame inside the frame that the function was made in. A
function literal ends its call by `return`; no other signal leaves it. An arrow is one expression,
evaluated as it stands.
-/

namespace TreeScript

/-- The result of a function body: what it returns, undefined if it returns nothing. -/
def absorbReturn (name : String) (body : Exec Value) : Exec Value := fun host store =>
  match body host store with
  | .done _ store => .done .undefined store
  | .stopped (.signal (.returned value)) store => .done value store
  | .stopped (.signal signal) store =>
    .stopped (.failure (.straySignal signal.keyword (.function name))) store
  | .stopped reason store => .stopped reason store
  | .unfinished store => .unfinished store

namespace Evaluator

/-- Call a function literal, which takes exactly as many arguments as it has parameters. -/
def callClosure (ev : Evaluator) (function : Closure) (args : List Value) : Exec Value :=
  if args.length = function.params.length then do
    let frame ← Exec.child function.scope ("call " ++ function.name)
    bindAll frame function.params args
    absorbReturn function.name (ev.run frame function.body)
  else
    Exec.fail (.argumentCount function.params.length args.length function.name)

/-- Call an arrow; missing arguments are undefined and further ones are ignored. -/
def callArrow (ev : Evaluator) (params : List String) (body : Node) (scope : FrameRef)
    (args : List Value) : Exec Value := do
  let frame ← Exec.child scope "arrow"
  bindAll frame params (args ++ List.replicate params.length .undefined)
  ev.exec body frame

/-- Call a memoized function: answer from its cache, or call the function and remember the result.
-/
def callMemoized (ev : Evaluator) (ref : FunctionRef) (function : Closure) (cache : Table Value)
    (args : List Value) : Exec Value := do
  let key ← Exec.keyOf args
  match cache.get? key with
  | some result => do
    Exec.record (.memoHit ⟨ref, args, function.name, key⟩)
    return result
  | none => do
    let result ← ev.callClosure function args
    Exec.change (·.remember ref key result)
    return result

/-- Call the function in a cell. -/
def callFunction (ev : Evaluator) (ref : FunctionRef) (args : List Value) : Exec Value := do
  match ← Exec.read (·.functions[ref]?) with
  | some (.builtin function) => function.call args
  | some (.closure function) => ev.callClosure function args
  | some (.memoized function cache) => ev.callMemoized ref function cache args
  | some (.arrow params body scope) => ev.callArrow params body scope args
  | none => Exec.unfinished

end Evaluator

end TreeScript
