import TreeScript.Failure

/-! # The transcript of a run

A run prints, and it reports events about itself. The transcript keeps both in their order. An event
is recorded by its cause; its level, its source and its wording are functions of the cause.
-/

namespace TreeScript

/-- The levels of events, in increasing order of weight. -/
inductive Level where
  | debug
  | info
  | warning
  | error
  | critical
  deriving DecidableEq, Repr

namespace Level

def name : Level → String
  | debug => "DEBUG"
  | info => "INFO"
  | warning => "WARNING"
  | error => "ERROR"
  | critical => "CRITICAL"

def weight : Level → Nat
  | debug => 10
  | info => 20
  | warning => 30
  | error => 40
  | critical => 50

end Level

/-- The place that a report comes from, as log lines show it. -/
structure Origin where
  module : String
  function : String
  line : Nat

/-- What is filled into the text of an event. -/
inductive Argument where
  | number (value : Nat)
  | text (value : String)
  | path (value : String)
  /-- Shown as it is. -/
  | plain (value : String)

/-- A call that a memoized function answered from its cache. -/
structure MemoHit where
  function : FunctionRef
  args : List Value
  /-- The name of the function. -/
  name : String
  key : String

inductive Event where
  | loaded (nodes : Nat) (file : String)
  | started (nodes : Nat)
  | nodeStarted (index : Nat) (node : String)
  | nodeFailed (index : Nat) (cause : Failure)
  | checkStopped (errors : Nat)
  | caught (cause : Failure)
  | memoHit (hit : MemoHit)
  | fetchStarted (target timeout : String)
  | fetchFailed (target reason : String)

namespace Event

def level : Event → Level
  | nodeStarted _ _ | caught _ | memoHit _ => .debug
  | loaded _ _ | started _ | nodeFailed _ _ | checkStopped _ | fetchStarted _ _ => .info
  | fetchFailed _ _ => .warning

/-- The part of the program that reports an event. -/
def source : Event → String
  | loaded _ _ => "intrear.loader"
  | started _ | nodeStarted _ _ | nodeFailed _ _ | checkStopped _ => "intrear.interpreter"
  | caught _ => "intrear.statements"
  | memoHit _ => "intrear.closures"
  | fetchStarted _ _ | fetchFailed _ _ => "intrear.builtins"

/-- The text of an event before its arguments are filled in. -/
def template : Event → String
  | loaded _ _ => "loaded %d top-level node(s) from %s"
  | started _ => "executing %d top-level node(s)"
  | nodeStarted _ _ => "node %d: %s"
  | nodeFailed _ _ => "node %d failed: [%s] %s"
  | checkStopped _ => "check stopped after %d error(s)"
  | caught _ => "caught %s[%s]: %s"
  | memoHit _ => "memo hit for %s%s"
  | fetchStarted _ _ => "fetch %s (timeout=%ss)"
  | fetchFailed _ _ => "fetch %s failed: %s"

/-- The arguments of an event, in the order of its text. -/
def arguments : Event → List Argument
  | loaded nodes file => [.number nodes, .path file]
  | started nodes => [.number nodes]
  | nodeStarted index node => [.number index, .text node]
  | nodeFailed index cause => [.number index, .text cause.code, .text cause.message]
  | checkStopped errors => [.number errors]
  | caught cause => [.text cause.errorClass.name, .text cause.code, .text cause.message]
  | memoHit hit => [.text hit.name, .text hit.key]
  | fetchStarted target timeout => [.text target, .plain timeout]
  | fetchFailed target reason => [.text target, .text reason]

/-- The place in the program that reports an event. -/
def origin : Event → Origin
  | loaded _ _ => ⟨"loader", "load_program", 209⟩
  | started _ => ⟨"interpreter", "execute", 40⟩
  | nodeStarted _ _ => ⟨"interpreter", "execute", 42⟩
  | nodeFailed _ _ => ⟨"interpreter", "execute", 49⟩
  | checkStopped _ => ⟨"interpreter", "check", 105⟩
  | caught _ => ⟨"statements", "execute", 304⟩
  | memoHit _ => ⟨"closures", "memoized", 110⟩
  | fetchStarted _ _ => ⟨"builtins", "_fetch", 182⟩
  | fetchFailed _ _ => ⟨"builtins", "_fetch", 188⟩

def message : Event → String
  | loaded nodes file => s!"loaded {nodes} top-level node(s) from {file}"
  | started nodes => s!"executing {nodes} top-level node(s)"
  | nodeStarted index node => s!"node {index}: {node}"
  | nodeFailed index cause => s!"node {index} failed: [{cause.code}] {cause.message}"
  | checkStopped errors => s!"check stopped after {errors} error(s)"
  | caught cause => s!"caught {cause.errorClass.name}[{cause.code}]: {cause.message}"
  | memoHit hit => s!"memo hit for {hit.name}{hit.key}"
  | fetchStarted target timeout => s!"fetch {target} (timeout={timeout}s)"
  | fetchFailed target reason => s!"fetch {target} failed: {reason}"

end Event

/-- What a run leaves behind, one piece at a time. -/
inductive Entry where
  | printed (text : String)
  | reported (event : Event)

namespace Entry

/-- The output in an entry. -/
def output : Entry → String
  | printed text => text
  | reported _ => ""

end Entry

end TreeScript
