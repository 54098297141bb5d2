import TreeScript.Journal
import TreeScript.Node
import TreeScript.Table

/-! # The store

Everything a run can change: frames of bindings, the cells behind arrays, objects and functions, and
the transcript. Cells are numbered in the order of their creation and are never removed, so a
frame stays available to the functions that captured it. The entries of an object never change.
-/

namespace TreeScript

abbrev FrameRef := Nat

/-- One scope's bindings. -/
structure Frame where
  label : String
  /-- The frames around this one, the nearest first. -/
  enclosing : List FrameRef
  bindings : Table Value

/-- A function literal together with the frame it was made in. -/
structure Closure where
  name : String
  params : List String
  body : List Node
  scope : FrameRef

inductive Callable where
  | builtin (function : Builtin)
  | closure (function : Closure)
  /-- A function that remembers its results by the key of its arguments. -/
  | memoized (function : Closure) (cache : Table Value)
  | arrow (params : List String) (body : Node) (scope : FrameRef)

/-- The name by which a function is shown. -/
def Callable.name : Callable → String
  | builtin function => function.name
  | closure function => function.name
  | memoized function _ => function.name
  | arrow _ _ _ => "arrow"

structure Store where
  frames : Array Frame
  arrays : Array (Array Value)
  objects : Array (Table Value)
  functions : Array Callable
  transcript : Array Entry
  /-- How often the outside world was asked for a time or a random number. -/
  requests : Nat

namespace Store

/-- The value bound to a name in one frame. -/
def binding? (store : Store) (frame : FrameRef) (name : String) : Option Value :=
  store.frames[frame]?.bind (·.bindings.get? name)

/-- The frames visible from a frame, the nearest first. -/
def visible (store : Store) (frame : FrameRef) : List FrameRef :=
  match store.frames[frame]? with
  | some inner => frame :: inner.enclosing
  | none => []

/-- The value of a name: its binding in the nearest visible frame that has one. -/
def lookup? (store : Store) (frame : FrameRef) (name : String) : Option Value :=
  (store.visible frame).findSome? (store.binding? · name)

/-- Bind a name in a frame. -/
def define (store : Store) (frame : FrameRef) (name : String) (value : Value) : Store :=
  { store with frames := store.frames.modify frame fun inner =>
      { inner with bindings := inner.bindings.put name value } }

/-- A new frame inside another one, without bindings. -/
def addFrame (store : Store) (parent : FrameRef) (label : String) : FrameRef × Store :=
  let enclosing := store.visible parent
  (store.frames.size, { store with frames := store.frames.push ⟨label, enclosing, []⟩ })

def addArray (store : Store) (elements : Array Value) : ArrayRef × Store :=
  (store.arrays.size, { store with arrays := store.arrays.push elements })

def addObject (store : Store) (entries : Table Value) : ObjectRef × Store :=
  (store.objects.size, { store with objects := store.objects.push entries })

def addFunction (store : Store) (function : Callable) : FunctionRef × Store :=
  (store.functions.size, { store with functions := store.functions.push function })

/-- The elements of an array. -/
def elements (store : Store) (ref : ArrayRef) : Array Value := store.arrays.getD ref #[]

/-- The entries of an object. -/
def entries (store : Store) (ref : ObjectRef) : Table Value := store.objects.getD ref []

/-- Change an array in place. -/
def updateArray (store : Store) (ref : ArrayRef) (change : Array Value → Array Value) : Store :=
  { store with arrays := store.arrays.modify ref change }

/-- Remember a result of a memoized function; other functions have no cache. -/
def remember (store : Store) (ref : FunctionRef) (key : String) (result : Value) : Store :=
  { store with functions := store.functions.modify ref fun
      | .memoized function cache => .memoized function (cache.put key result)
      | other => other }

def record (store : Store) (event : Event) : Store :=
  { store with transcript := store.transcript.push (.reported event) }

def write (store : Store) (text : String) : Store :=
  { store with transcript := store.transcript.push (.printed text) }

/-- All that was printed. -/
def output (store : Store) : String := String.join (store.transcript.toList.map Entry.output)

/-- The cell of a built-in function. -/
def builtinRef (function : Builtin) : FunctionRef := Builtin.all.idxOf function

/-- The frame that all others are made in. -/
def root : FrameRef := 0

/-- The bindings that a root frame starts with. -/
def builtinBindings : Table Value :=
  Builtin.all.map fun function => (function.name, .function (builtinRef function))

/-- The store at the start of a run: one frame, which binds the built-in functions. -/
def initial : Store where
  frames := #[⟨"global", [], builtinBindings⟩]
  arrays := #[]
  objects := #[]
  functions := (Builtin.all.map Callable.builtin).toArray
  transcript := #[]
  requests := 0

end Store

end TreeScript
