import TreeScript.Proofs.Conduct.Frames
import TreeScript.Proofs.Runs.Interruption

/-! # Leaving a function

A `return` ends the call of the function that it is written in, from within any nesting of blocks,
branches, cases, loops and handlers. That a call comes to a statement is said step by step: the
statements before it are done, and then it is executed, or it lies in a body that the execution enters.
From there on the signal passes every construct on its way out unchanged, so the call is over as soon as
the expression is evaluated.

The calls considered here may be interrupted. A call that has not been interrupted when the expression
is evaluated is not interrupted at all: there is no moment left at which anything is executed.
-/

namespace TreeScript

open Exec

variable {halts : RunMoment → Bool} {host : Host} {effort rest : Nat} {value : Value} {final : Store}

/-! ## On the way to a statement -/

/-- A loop goes through a number of rounds and has not come to its end. -/
inductive Exec.Rounds {β : Type} (round : β → Exec (Round β)) (host : Host) :
    Nat → β → Store → β → Store → Prop
  | none (state : β) (store : Store) : Rounds round host 0 state store state store
  | next {count : Nat} {state next last : β} {store middle after : Store}
      (first : round state host store = .done (.again next) middle)
      (others : Rounds round host count next middle last after) :
      Rounds round host (count + 1) state store last after

/-- The store in which a failure is handled: the handler's scope binds its description. -/
def Store.enterHandler (store : Store) (frame : FrameRef) (catchVar : String) (cause : Failure) : Store :=
  let scope := ((store.record (.caught cause)).addFrame frame "catch").2
  (scope.addObject cause.entries).2.define store.frames.size catchVar (.object store.objects.size)

/-- The execution of a node in a frame enters a body of statements: the scope of the body, and the store
in which the first of its statements is executed. -/
inductive Evaluator.Enters (ev : Evaluator) (effort : Nat) (host : Host) (frame : FrameRef) (store : Store) :
    Node → List Node → FrameRef → Store → Prop
  | block (body : List Node) :
      Enters ev effort host frame store (.block body) body store.frames.size
        (store.addFrame frame "block").2
  | thenBranch {condition : Node} {body : List Node} {elseBranch : Option (List Node)} {after : Store}
      (holds : ev.condition condition frame host store = .done true after) :
      Enters ev effort host frame store (.branch condition body elseBranch) body after.frames.size
        (after.addFrame frame "if").2
  | elseBranch {condition : Node} {thenBranch body : List Node} {after : Store}
      (fails : ev.condition condition frame host store = .done false after) :
      Enters ev effort host frame store (.branch condition thenBranch (some body)) body after.frames.size
        (after.addFrame frame "if").2
  | chosen {expression : Node} {cases : List (Node × List Node)} {otherwise : Option (List Node)}
      {body : List Node} {control : Value} {middle after : Store}
      (evaluates : ev.exec expression frame host store = .done control middle)
      (found : ev.matchingCase frame control cases host middle = .done (some body) after) :
      Enters ev effort host frame store (.select expression cases otherwise) body after.frames.size
        (after.addFrame frame "case").2
  | otherwise {expression : Node} {cases : List (Node × List Node)} {body : List Node} {control : Value}
      {middle after : Store} (evaluates : ev.exec expression frame host store = .done control middle)
      (missed : ev.matchingCase frame control cases host middle = .done none after) :
      Enters ev effort host frame store (.select expression cases (some body)) body after.frames.size
        (after.addFrame frame "default").2
  | whileBody {condition : Node} {body : List Node} {count : Nat} {last : Value} {middle after : Store}
      (few : count < effort)
      (rounds : Rounds (ev.whileRound store.frames.size condition body) host count .undefined
        (store.addFrame frame "while").2 last middle)
      (holds : ev.condition condition store.frames.size host middle = .done true after) :
      Enters ev effort host frame store (.whileLoop condition body) body store.frames.size after
  | doWhileBody {condition : Node} {body : List Node} {count : Nat} {last : Value} {after : Store}
      (few : count < effort)
      (rounds : Rounds (ev.doWhileRound store.frames.size body condition) host count .undefined
        (store.addFrame frame "do-while").2 last after) :
      Enters ev effort host frame store (.doWhile body condition) body store.frames.size after
  | forBody {init condition update : Option Node} {body : List Node} {count : Nat} {last : Value}
      {started middle after : Store} (few : count < effort)
      (starts : ev.perform store.frames.size init host (store.addFrame frame "for").2 = .done () started)
      (rounds : Rounds (ev.forRound store.frames.size condition update body) host count .undefined started
        last middle)
      (proceeds : ev.proceeds store.frames.size condition host middle = .done true after) :
      Enters ev effort host frame store (.forLoop init condition update body) body after.frames.size
        (after.addFrame store.frames.size "for body").2
  | forEachBody {item : String} {iterable : Node} {body : List Node} {ref : ArrayRef} {count index : Nat}
      {last element : Value} {started after : Store} (few : count < effort)
      (evaluates : ev.exec iterable frame host store = .done (.array ref) started)
      (rounds : Rounds (ev.forEachRound frame item ref body) host count (0, .undefined) started
        (index, last) after)
      (found : (after.elements ref)[index]? = some element) :
      Enters ev effort host frame store (.forEach item iterable body) body after.frames.size
        ((after.addFrame frame "for-each").2.define after.frames.size item element)
  | tryBlock (body : List Node) (catchVar : String) (catchBlock : List Node) :
      Enters ev effort host frame store (.tryCatch body catchVar catchBlock) body store.frames.size
        (store.addFrame frame "try").2
  | catchBlock {tryBlock body : List Node} {catchVar : String} {cause : Failure} {after : Store}
      (fails : ev.runInside frame "try" tryBlock host store = .stopped (.failure cause) after) :
      Enters ev effort host frame store (.tryCatch tryBlock catchVar body) body after.frames.size
        (after.enterHandler frame catchVar cause)

/-- A run of statements comes to a statement among them or, however deep, in their bodies; functions that
are written in them are not entered. The first number is the effort allowed to the run, the second what
is left of it when the statement is executed. -/
inductive ComesTo (halts : RunMoment → Bool) (host : Host) :
    Nat → List Node → FrameRef → Store → Nat → RunMoment → Prop
  | here {effort : Nat} {node : Node} {after : List Node} {scope : FrameRef} {store : Store} :
      ComesTo halts host effort (node :: after) scope store effort ⟨node, scope, store⟩
  | inside {effort rest : Nat} {outer : Node} {after body : List Node} {scope inner : FrameRef}
      {store entered : Store} {moment : RunMoment} (goesOn : halts ⟨outer, scope, store⟩ = false)
      (enters : (interrupted halts effort).Enters effort host scope store outer body inner entered)
      (comes : ComesTo halts host effort body inner entered rest moment) :
      ComesTo halts host (effort + 1) (outer :: after) scope store rest moment
  | past {effort rest : Nat} {first : Node} {after : List Node} {scope : FrameRef} {result : Value}
      {store middle : Store} {moment : RunMoment}
      (passes : (interrupted halts effort).exec first scope host store = .done result middle)
      (comes : ComesTo halts host effort after scope middle rest moment) :
      ComesTo halts host effort (first :: after) scope store rest moment

/-! ## On the way out -/

/-- After some rounds, a loop is where a loop is that begins there. -/
theorem Exec.Rounds.repeatRounds_eq {β : Type} {round : β → Exec (Round β)} {count : Nat} {state last : β}
    {store after : Store} (rounds : Rounds round host count state store last after) (rest : Nat) :
    repeatRounds round (rest + count) state host store = repeatRounds round rest last host after := by
  induction rounds with
  | none => rfl
  | @next count _ _ _ _ _ _ first _ ih =>
    rw [← Nat.add_assoc, repeatRounds]
    simp only [first]
    exact ih

/-- A loop that is stopped in a round is stopped, whatever rounds it has been through. -/
theorem Exec.Rounds.repeatRounds_stopped {β : Type} {round : β → Exec (Round β)} {count : Nat}
    {state last : β} {store after : Store} {reason : Stop} (rounds : Rounds round host count state store last after)
    (few : count < effort) (stops : round last host after = .stopped reason final) :
    repeatRounds round effort state host store = .stopped reason final := by
  obtain ⟨rest, rfl⟩ : ∃ rest, effort = rest + 1 + count := ⟨effort - 1 - count, by omega⟩
  rw [rounds.repeatRounds_eq, repeatRounds]
  simp only [stops]

theorem absorbJumps_of_returned {body : Exec Value} {last : Value} {store : Store}
    (stops : body host store = .stopped (.signal (.returned value)) final) :
    absorbJumps last body host store = .stopped (.signal (.returned value)) final := by
  rw [absorbJumps, stops]

namespace Evaluator

variable {ev : Evaluator} {frame scope : FrameRef} {store entered : Store} {node : Node} {body : List Node}

/-- A `return` in a body that is entered leaves the construct that the body belongs to. No condition is
tested again, no update and no further round is made, and no handler takes it. -/
theorem Enters.execNode_returned (enters : ev.Enters effort host frame store node body scope entered)
    (stops : ev.run scope body host entered = .stopped (.signal (.returned value)) final) :
    ev.execNode effort node frame host store = .stopped (.signal (.returned value)) final := by
  cases enters with
  | block => exact stops
  | thenBranch holds =>
    change (ev.condition _ frame >>= _) host store = _
    rw [bind_of_done holds]
    exact stops
  | elseBranch fails =>
    change (ev.condition _ frame >>= _) host store = _
    rw [bind_of_done fails]
    exact stops
  | chosen evaluates found =>
    change (ev.exec _ frame >>= _) host store = _
    rw [bind_of_done evaluates, bind_of_done found]
    exact stops
  | otherwise evaluates missed =>
    change (ev.exec _ frame >>= _) host store = _
    rw [bind_of_done evaluates, bind_of_done missed]
    exact stops
  | @whileBody condition _ count last middle _ few rounds holds =>
    have round : ev.whileRound store.frames.size condition body last host middle =
        .stopped (.signal (.returned value)) final := by
      rw [whileRound, bind_of_done holds]
      exact absorbJumps_of_returned stops
    exact rounds.repeatRounds_stopped few round
  | @doWhileBody condition _ count last _ few rounds =>
    have round : ev.doWhileRound store.frames.size body condition last host entered =
        .stopped (.signal (.returned value)) final := by
      rw [doWhileRound, bind_of_stopped (absorbJumps_of_returned stops)]
    exact rounds.repeatRounds_stopped few round
  | @forBody init condition update _ count last started middle after few starts rounds proceeds =>
    have round : ev.forRound store.frames.size condition update body last host middle =
        .stopped (.signal (.returned value)) final := by
      rw [forRound, bind_of_done proceeds]
      apply bind_of_stopped
      exact absorbJumps_of_returned stops
    change (ev.perform store.frames.size init >>= _) host (store.addFrame frame "for").2 = _
    rw [bind_of_done starts]
    exact rounds.repeatRounds_stopped few round
  | @forEachBody item iterable _ ref count index last element started after few evaluates rounds found =>
    have round : ev.forEachRound frame item ref body (index, last) host after =
        .stopped (.signal (.returned value)) final := by
      have read : Exec.read (·.elements ref) host after = .done (after.elements ref) after := rfl
      rw [forEachRound, bind_of_done read]
      simp only [found]
      apply bind_of_stopped
      exact absorbJumps_of_returned stops
    change (ev.exec iterable frame >>= _) host store = _
    rw [bind_of_done evaluates]
    apply bind_of_stopped
    exact rounds.repeatRounds_stopped few round
  | tryBlock =>
    change catching (ev.runInside frame "try" body) _ host store = _
    have inside : ev.runInside frame "try" body host store = .stopped (.signal (.returned value)) final := stops
    rw [catching, inside]
  | catchBlock fails =>
    change catching (ev.runInside frame "try" _) _ host store = _
    rw [catching, fails]
    exact stops

/-- The value that a `return` gives: that of its expression, undefined if it has none. -/
def given (ev : Evaluator) (frame : FrameRef) : Option Node → Exec Value
  | some expression => ev.exec expression frame
  | none => done .undefined

theorem execNode_giveBack {expression : Option Node}
    (evaluates : ev.given frame expression host store = .done value final) :
    ev.execNode effort (.giveBack expression) frame host store = .stopped (.signal (.returned value)) final := by
  cases expression with
  | none =>
    cases evaluates
    rfl
  | some expression =>
    have evaluated : ev.exec expression frame host store = .done value final := evaluates
    change (ev.exec expression frame >>= _) host store = _
    rw [bind_of_done evaluated]
    rfl

end Evaluator

theorem interrupted_exec {node : Node} {frame : FrameRef} {store : Store}
    (goesOn : halts ⟨node, frame, store⟩ = false) :
    (interrupted halts (effort + 1)).exec node frame host store =
      (interrupted halts effort).execNode effort node frame host store := by
  rw [interrupted_exec_eq, goesOn]
  rfl

/-- A statement that a run comes to and that returns ends the run, however deep it lies. -/
theorem ComesTo.runFrom_returned {statements : List Node} {scope : FrameRef} {store : Store} {moment : RunMoment}
    (comes : ComesTo halts host effort statements scope store rest moment)
    (returns : (interrupted halts rest).exec moment.node moment.frame host moment.store =
      .stopped (.signal (.returned value)) final) (last : Value) :
    (interrupted halts effort).runFrom scope last statements host store =
      .stopped (.signal (.returned value)) final := by
  induction comes generalizing last with
  | here => exact bind_of_stopped returns
  | inside goesOn enters _ ih =>
    apply bind_of_stopped
    rw [interrupted_exec goesOn]
    exact enters.execNode_returned (ih returns .undefined)
  | @past _ _ _ _ _ result _ _ _ passes _ ih =>
    change ((interrupted halts _).exec _ _ >>= _) host _ = _
    rw [bind_of_done passes]
    exact ih returns result

/-! ## Calls -/

/-- Call a function, up to the first moment picked out. -/
def callUntil (halts : RunMoment → Bool) (effort : Nat) (ref : FunctionRef) (args : List Value) : Exec Value :=
  (interrupted halts effort).call ref args

/-- A call that is never interrupted. -/
theorem callUntil_never (effort : Nat) (ref : FunctionRef) (args : List Value) :
    callUntil (fun _ => false) effort ref args = callWithin effort ref args := by
  rw [callUntil, interrupted_never]
  rfl

/-- A call with the given arguments executes the body of a function literal: the literal has as many
parameters, and its result for these arguments is not remembered. -/
inductive Store.Invokes (store : Store) (host : Host) (ref : FunctionRef) (args : List Value) (function : Closure) : Prop
  | plain (found : store.functions[ref]? = some (.closure function))
      (enough : args.length = function.params.length) : Invokes store host ref args function
  | remembering {cache : Table Value} {key : String}
      (found : store.functions[ref]? = some (.memoized function cache))
      (enough : args.length = function.params.length) (keyed : keyOf args host store = .done key store)
      (absent : cache.get? key = none) : Invokes store host ref args function

theorem Store.Invokes.callFunction_returned {ev : Evaluator} {store : Store} {ref : FunctionRef}
    {args : List Value} {function : Closure} (invokes : store.Invokes host ref args function)
    (stops : ev.run store.frames.size function.body host (store.enterClosure function args) =
      .stopped (.signal (.returned value)) final) :
    ∃ functions, ev.callFunction ref args host store = .done value { final with functions := functions } := by
  have body (enough : args.length = function.params.length) :
      ev.callClosure function args host store = .done value final := by
    rw [Evaluator.callClosure_eq ev host store enough, absorbReturn, stops]
  cases invokes with
  | plain found enough =>
    refine ⟨final.functions, ?_⟩
    rw [Evaluator.callFunction_eq found]
    exact body enough
  | @remembering cache key found enough keyed absent =>
    refine ⟨(final.remember ref key value).functions, ?_⟩
    rw [Evaluator.callFunction_eq found]
    change ev.callMemoized ref function cache args host store = _
    rw [Evaluator.callMemoized_of_miss keyed absent, bind_of_done (body enough)]
    rfl

/-- A `return` ends the call at once: if the body of a function literal comes to a `return`, within any
nesting of constructs, and its expression evaluates to a value, then the call gives that value, and it
leaves the store as it was right after the expression was evaluated, but for what the function remembers.
This goes for calls with any interruptions in store for them; hence after the expression no node is
executed any more, in handlers or elsewhere. -/
theorem callUntil_ends_at_return {ref : FunctionRef} {args : List Value} {function : Closure} {store reached : Store}
    {expression : Option Node} {frame : FrameRef} (invokes : store.Invokes host ref args function)
    (comes : ComesTo halts host effort function.body store.frames.size (store.enterClosure function args)
      (rest + 1) ⟨.giveBack expression, frame, reached⟩)
    (goesOn : halts ⟨.giveBack expression, frame, reached⟩ = false)
    (evaluates : (interrupted halts rest).given frame expression host reached = .done value final) :
    ∃ functions, callUntil halts (effort + 1) ref args host store =
      .done value { final with functions := functions } := by
  have returns : (interrupted halts (rest + 1)).exec (.giveBack expression) frame host reached =
      .stopped (.signal (.returned value)) final := by
    rw [interrupted_exec goesOn]
    exact Evaluator.execNode_giveBack evaluates
  exact invokes.callFunction_returned (comes.runFrom_returned returns .undefined)

/-- A function whose first `return` fails over an unbound name, which is handled; in the handler a loop
returns, and the `return` after the handler is not reached. -/
theorem callWithin_returns_from_handler :
    let success : Node := .giveBack (some (.literal (.string "found")))
    let body : List Node := [
      .declare "boolean" "more" (.literal (.bool true)),
      .tryCatch [.giveBack (some (.reference "ghost"))] "problem"
        [.doWhile [.branch (.literal (.bool true)) [success] none] (.reference "more")],
      .giveBack none]
    let store : Store := ⟨#[⟨"global", [], []⟩], #[], #[], #[.closure ⟨"search", [], body, Store.root⟩], #[], 0⟩
    ∃ frame reached functions,
      ComesTo (fun _ => false) default 8 body 1 (store.enterClosure ⟨"search", [], body, Store.root⟩ []) 5
        ⟨success, frame, reached⟩ ∧
      callWithin 9 0 [] default store = .done (.string "found") { reached with functions := functions } := by
  intro success body store
  have invokes : store.Invokes default 0 [] ⟨"search", [], body, Store.root⟩ := .plain rfl rfl
  have comes : ∃ frame reached, ComesTo (fun _ => false) default 8 body 1
      (store.enterClosure ⟨"search", [], body, Store.root⟩ []) 5 ⟨success, frame, reached⟩ :=
    ⟨_, _, .past rfl (.inside rfl (.catchBlock rfl) (.inside rfl (.doWhileBody (by decide) (.none _ _))
      (.inside rfl (.thenBranch rfl) .here)))⟩
  obtain ⟨frame, reached, comes⟩ := comes
  obtain ⟨functions, ends⟩ := callUntil_ends_at_return invokes comes rfl rfl
  rw [callUntil_never] at ends
  exact ⟨frame, reached, functions, comes, ends⟩

end TreeScript
