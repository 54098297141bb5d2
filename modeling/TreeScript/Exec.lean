import TreeScript.Resource.Address
import TreeScript.Store.Picture

/-! # Execution steps

A step reads the host, changes the store and ends in one of three ways: with a result, stopped by a
failure, a signal or a fault, or not within the effort allowed. A step that gives no result leaves
the store as it was at that point.

Of the limits of a host, those on the digits of an integer and on the growth of an array are part of it.
How deep it can nest calls is left aside: a step that goes down without end, into calls or into an array
that contains itself, does not come to an end.
-/

namespace TreeScript

-- Powers are those of the core library, whatever else is in scope.
attribute [local instance (high)] instPowNat

/-- What a program runs on: its settings, its limits and the answers of the outside world. Times and
random numbers are numbered by the requests made for them. -/
structure Host where
  /-- Whether functions marked pure remember their results. -/
  memoizes : Bool
  /-- The time limit on fetching, as events show it. -/
  fetchTimeout : String
  /-- Milliseconds since the beginning of 1970. -/
  clock : Nat → Int
  random : Nat → Binary64
  files : Files
  /-- What a machine on the network answers, or why there is no answer. -/
  transport : Contact → Except String String
  /-- How many digits an integer may have as text; zero stands for no limit. -/
  digitLimit : Nat := 4300
  /-- How many elements an array can grow by before memory runs out. -/
  room : Nat := 2 ^ (33 : Nat)
  /-- The number that a function is known by. A host may use a number again for a later function. -/
  identity : FunctionRef → Nat := id

namespace Host

/-- A host without files, network or the passing of time. -/
instance : Inhabited Host where
  default := {
    memoizes := true
    fetchTimeout := "10.0"
    clock := fun _ => 0
    random := fun _ => default
    files := fun _ => .nothing
    transport := fun _ => .error "" }

/-- Whether an integer is short enough to be written. -/
def writes (host : Host) (n : Int) : Bool := host.digitLimit == 0 || n.natAbs < 10 ^ host.digitLimit

/-- Whether a numeral with so many digits is short enough to be read. -/
def reads (host : Host) (digits : Nat) : Bool := host.digitLimit == 0 || digits ≤ host.digitLimit

/-- The fault of a numeral that is too long, with its digits if they are counted. -/
def tooLong (host : Host) (counted : Option Nat) : Fault :=
  .invalidInteger (.tooLong host.digitLimit counted)

end Host

/-- Why a step stopped without a result. -/
inductive Stop where
  | failure (cause : Failure)
  | signal (jump : Signal)
  | fault (cause : Fault)

inductive Outcome (α : Type) where
  | done (result : α) (store : Store)
  | stopped (reason : Stop) (store : Store)
  /-- The effort allowed did not suffice. -/
  | unfinished (store : Store)

def Exec (α : Type) := Host → Store → Outcome α

namespace Exec

variable {α β : Type}

def done (result : α) : Exec α := fun _ store => .done result store

def andThen (step : Exec α) (next : α → Exec β) : Exec β := fun host store =>
  match step host store with
  | .done result store => next result host store
  | .stopped reason store => .stopped reason store
  | .unfinished store => .unfinished store

instance : Monad Exec where
  pure := done
  bind := andThen

def stop (reason : Stop) : Exec α := fun _ store => .stopped reason store

def fail (cause : Failure) : Exec α := stop (.failure cause)

def jump (signal : Signal) : Exec α := stop (.signal signal)

def crash (cause : Fault) : Exec α := stop (.fault cause)

def unfinished : Exec α := fun _ store => .unfinished store

def host : Exec Host := fun host store => .done host store

/-- A result read off the store. -/
def read (view : Store → α) : Exec α := fun _ store => .done (view store) store

/-- A result read off the store that only a value without cycles has. -/
def read? (view : Store → Option α) : Exec α := fun _ store =>
  match view store with
  | some result => .done result store
  | none => .unfinished store

def change (update : Store → Store) : Exec Unit := fun _ store => .done () (update store)

/-- A new cell of the store. -/
def create (add : Store → α × Store) : Exec α := fun _ store =>
  let (result, store) := add store
  .done result store

def ofArithmetic : Except ArithmeticFault α → Exec α
  | .ok result => done result
  | .error fault => crash (.arithmetic fault)

def lookup (frame : FrameRef) (name : String) : Exec Value := fun _ store =>
  match store.lookup? frame name with
  | some value => .done value store
  | none => .stopped (.failure (.unboundVariable name)) store

def define (frame : FrameRef) (name : String) (value : Value) : Exec Unit :=
  change (·.define frame name value)

/-- Enter a new scope inside a frame. -/
def child (parent : FrameRef) (label : String) : Exec FrameRef := create (·.addFrame parent label)

def newArray (elements : Array Value) : Exec Value := do
  return .array (← create (·.addArray elements))

def newObject (entries : Table Value) : Exec Value := do
  return .object (← create (·.addObject entries))

def newFunction (function : Callable) : Exec Value := do
  return .function (← create (·.addFunction function))

/-- A result that is read off the store by writing it out, with the integers that are written then. -/
def spell (view : Host → Store → Option α) (integers : Store → List Int) : Exec α := fun host store =>
  match view host store with
  | some result =>
    if (integers store).all host.writes then .done result store
    else .stopped (.fault (host.tooLong none)) store
  | none => .unfinished store

/-- Go on only if a numeral with so many digits is short enough to be read. -/
def ensureReadable (digits : Nat) : Exec Unit := fun host store =>
  if host.reads digits then .done () store
  else .stopped (.fault (host.tooLong (some digits))) store

def textOf (value : Value) : Exec String := spell (fun _ => (·.text? value)) (·.integers false value)

def quantityOf (value : Value) : Exec Quantity := spell (fun _ => (·.quantity? value)) (·.integersOfQuantity value)

/-- The key of the arguments of a call. -/
def keyOf (args : List Value) : Exec String :=
  spell (fun host => (·.key? args host.identity)) fun store => args.flatMap (store.integers true)

def typeOf (value : Value) : Exec Ty := read? (·.type? value)

def record (event : Event) : Exec Unit := change (·.record event)

/-- Perform a step for each item, in order. -/
def each (step : α → Exec β) : List α → Exec (List β)
  | [] => done []
  | item :: rest => do
    let result ← step item
    return result :: (← each step rest)

/-- A call across the boundary of a function: faults become failures that scripts can catch. -/
def hosted (name : String) (step : Exec α) : Exec α := fun host store =>
  match step host store with
  | .stopped (.fault cause) store => .stopped (.failure (.host name cause.message)) store
  | outcome => outcome

/-- Recover from a failure; signals and faults pass. -/
def catching (step : Exec α) (handler : Failure → Exec α) : Exec α := fun host store =>
  match step host store with
  | .stopped (.failure cause) store => handler cause host store
  | outcome => outcome

/-- Whether a loop goes on after a round. -/
inductive Round (β : Type) where
  | again (state : β)
  | finished (state : β)

/-- Repeat a round until it finishes the loop, at most `effort` times. -/
def repeatRounds (round : β → Exec (Round β)) : Nat → β → Exec β
  | 0, _ => unfinished
  | effort + 1, state => fun host store =>
    match round state host store with
    | .done (.again state) store => repeatRounds round effort state host store
    | .done (.finished state) store => .done state store
    | .stopped reason store => .stopped reason store
    | .unfinished store => .unfinished store

end Exec

end TreeScript
