import TreeScript.Config
import TreeScript.Infer
import TreeScript.Numeric.Uniform
import TreeScript.Program.Load
import TreeScript.Program.Run

/-! # Sessions

A session executes and infers nodes one at a time, in scopes that it enters and leaves. It keeps the
store, the frame in use and the types in sight from step to step.
-/

namespace TreeScript

/-- The host for a configuration. `entropy` seeds random numbers if no seed is set. -/
def Config.host (config : Config) (clock : Int) (entropy : UInt64) (files : Files)
    (transport : Contact → Except String String) : Host where
  memoizes := config.memoizePure.isTruthy
  fetchTimeout := config.fetchTimeout.plain
  clock _ := clock
  random := Uniform.double <| match config.randomSeed with
    | .scalar .null => entropy
    | seed => Uniform.seedOfText seed.display
  files := files
  transport := transport

structure Session where
  host : Host
  effort : Nat
  store : Store
  frame : FrameRef
  types : TypeScope
  /-- The number of the next symbol. -/
  symbols : Nat

namespace Session

def start (host : Host) (effort : Nat) : Session :=
  ⟨host, effort, .initial, Store.root, .initial, 0⟩

/-- The result of a step, if it ended in time, and the session after it. -/
def perform {α : Type} (session : Session) (step : Exec α) : Option (Except Stop α) × Session :=
  match step session.host session.store with
  | .done result store => (some (.ok result), { session with store })
  | .stopped reason store => (some (.error reason), { session with store })
  | .unfinished _ => (none, session)

/-- Load a part of a document. -/
def load {α : Type} (session : Session) (part : Load α) : Except LoadError (α × Session) := do
  let (result, symbols) ← part.run session.symbols
  return (result, { session with symbols })

/-- Execute a node in the current scope. -/
def exec (session : Session) (node : Node) : Option (Except Stop Value) × Session :=
  session.perform (node.exec session.effort session.frame)

/-- Infer the type of a node in the current scope. -/
def infer (session : Session) (node : Node) : Except Failure Ty × Session :=
  let (result, types) := node.infer session.types
  (result, { session with types })

/-- The value of a name in the current scope. -/
def lookup (session : Session) (name : String) : Option (Except Stop Value) × Session :=
  session.perform (Exec.lookup session.frame name)

/-- Call a function from the host. -/
def call (session : Session) (ref : FunctionRef) (args : List Value) :
    Option (Except Stop Value) × Session :=
  session.perform (callWithin session.effort ref args)

def define (session : Session) (name : String) (value : Value) : Session :=
  { session with store := session.store.define session.frame name value }

def defineType (session : Session) (name : String) (type : Ty) : Session :=
  { session with types := session.types.define name type }

/-- Enter a scope. -/
def push (session : Session) (label : String) : Session :=
  let (frame, store) := session.store.addFrame session.frame label
  { session with store, frame, types := ⟨label, []⟩ :: session.types }

/-- Leave a scope; the root scope stays. -/
def pop (session : Session) : Session :=
  match session.store.visible session.frame, session.types with
  | _ :: parent :: _, _ :: types => { session with frame := parent, types }
  | _, _ => session

/-- The number of scopes entered, the root scope included. -/
def depth (session : Session) : Nat := session.types.length

/-- The output since it was last taken. -/
def takeOutput (session : Session) : String × Session :=
  (session.store.output, { session with store := { session.store with transcript := #[] } })

end Session

/-- Names in order, as a list in brackets. -/
def displayNames (names : List String) : String :=
  "[" ++ ", ".intercalate ((names.mergeSort (· ≤ ·)).map SourceText.quote) ++ "]"

/-- A frame shown by its label and the names it binds. -/
def Frame.display (frame : Frame) : String :=
  s!"ExecutionContext({SourceText.quote frame.label}, {displayNames frame.bindings.keys})"

/-- A frame of types shown by its label and the names it binds. -/
def TypeFrame.display (frame : TypeFrame) : String :=
  s!"TypeEnvironment({SourceText.quote frame.label}, {displayNames frame.types.keys})"

end TreeScript
