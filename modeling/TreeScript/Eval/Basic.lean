import TreeScript.Builtin.Call
import TreeScript.Method.Apply

/-! # Parts of evaluation

The evaluation of a construct is written against a given way to execute its parts and to call
functions. Tying the knot is left to `TreeScript.Eval`.
-/

namespace TreeScript

/-- A way to execute nodes and to call functions. -/
structure Evaluator where
  exec : Node → FrameRef → Exec Value
  call : Caller

/-- The function that a literal makes in a frame; other nodes make none. -/
def closureOf? (frame : FrameRef) : Node → Option (Exec Value)
  | .function name params body _ _ isPure => some do
    let host ← Exec.host
    let closure : Closure := ⟨functionName name, params, body, frame⟩
    Exec.newFunction (if isPure && host.memoizes then .memoized closure [] else .closure closure)
  | .arrow params body => some (Exec.newFunction (.arrow params body frame))
  | _ => none

namespace Evaluator

/-- Evaluate a node where a function may stand: function literals become functions. -/
def argument (ev : Evaluator) (frame : FrameRef) (node : Node) : Exec Value :=
  match closureOf? frame node with
  | some make => make
  | none => ev.exec node frame

/-- Execute statements in order; the result is that of the last one, `last` if there is none. -/
def runFrom (ev : Evaluator) (frame : FrameRef) (last : Value) : List Node → Exec Value
  | [] => Exec.done last
  | node :: rest => do
    let value ← ev.exec node frame
    ev.runFrom frame value rest

def run (ev : Evaluator) (frame : FrameRef) (statements : List Node) : Exec Value :=
  ev.runFrom frame .undefined statements

/-- Execute statements in a new scope. -/
def runInside (ev : Evaluator) (frame : FrameRef) (label : String) (statements : List Node) :
    Exec Value := do
  let scope ← Exec.child frame label
  ev.run scope statements

/-- Evaluate a condition, which must be a truth value. -/
def condition (ev : Evaluator) (node : Node) (frame : FrameRef) : Exec Bool := do
  match ← ev.exec node frame with
  | .bool value => return value
  | other => Exec.fail (.conditionNotBoolean other)

end Evaluator

/-- Bind names to values in a frame, in order; names beyond the values are left unbound. -/
def bindAll (frame : FrameRef) : List String → List Value → Exec Unit
  | name :: names, value :: values => do
    Exec.define frame name value
    bindAll frame names values
  | _, _ => Exec.done ()

end TreeScript
