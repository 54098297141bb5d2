import TreeScript.Eval

/-! # Running programs

A program runs in a fresh root frame, node by node. A signal that no construct took is a failure of
the node it came from.
-/

namespace TreeScript

/-- Execute a top-level node, reporting its failure. -/
def Node.execTopLevel (node : Node) (effort index : Nat) : Exec Unit := fun host store =>
  match node.exec effort Store.root host store with
  | .done _ store => .done () store
  | .stopped (.signal signal) store =>
    .stopped (.failure (.straySignal signal.keyword (.topLevel index node.kindName))) store
  | .stopped (.failure cause) store =>
    .stopped (.failure cause) (store.record (.nodeFailed index cause))
  | .stopped (.fault cause) store => .stopped (.fault cause) store
  | .unfinished store => .unfinished store

/-- Execute top-level nodes in order, where `index` is the number of the first one. -/
def execAll (effort index : Nat) : List Node → Exec Unit
  | [] => Exec.done ()
  | node :: rest => do
    Exec.record (.nodeStarted index node.kindName)
    node.execTopLevel effort index
    execAll effort (index + 1) rest

/-- Run a program from the start. -/
def execProgram (effort : Nat) (nodes : List Node) : Exec Unit := do
  Exec.record (.started nodes.length)
  execAll effort 0 nodes

/-- The outcome of a program on a host. -/
def runProgram (host : Host) (effort : Nat) (nodes : List Node) : Outcome Unit :=
  execProgram effort nodes host .initial

/-- The top-level bindings, without the names that are still bound to their built-in. -/
def Store.bindings (store : Store) : Table Value :=
  let all := match store.frames[Store.root]? with
    | some frame => frame.bindings
    | none => []
  all.filter fun (name, value) =>
    !Store.builtinBindings.any fun (known, function) => known == name && function == value

end TreeScript
