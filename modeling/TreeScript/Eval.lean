import TreeScript.Eval.Node

/-! # The evaluator

Evaluation need not end, so it is allowed an effort: a bound on how deep nodes and calls are nested
and on how many rounds a loop has. An evaluation that ends within some effort ends in the same way
within any larger one.
-/

namespace TreeScript

/-- The evaluator that is allowed the given effort. -/
def evaluator : Nat → Evaluator
  | 0 => ⟨fun _ _ => Exec.unfinished, fun _ _ => Exec.unfinished⟩
  | effort + 1 =>
    ⟨fun node frame host store => (evaluator effort).execNode effort node frame host store,
     fun ref args host store => (evaluator effort).callFunction ref args host store⟩

/-- Execute a node in a frame. -/
def Node.exec (node : Node) (effort : Nat) (frame : FrameRef) : Exec Value :=
  (evaluator effort).exec node frame

/-- Call a function. -/
def callWithin (effort : Nat) (ref : FunctionRef) (args : List Value) : Exec Value :=
  (evaluator effort).call ref args

end TreeScript
