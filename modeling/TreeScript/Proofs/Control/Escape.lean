import TreeScript.Proofs.Runs.Traces

/-! # The faults that leave a program

A call is a boundary that no fault passes: what goes wrong in a function or method becomes a failure that
the script can catch. The operators and the accesses to elements that stand outside of calls have no such
boundary around them. So a program crashes over numbers and arrays that are too large, and over one thing
more: a text of digits by which an array or a text is read, but which is no number.
-/

namespace TreeScript

open Exec

/-- The faults of numbers that are too large for what is done with them. -/
def Fault.isOverflow : Fault → Bool
  | arithmetic _ | gapTooLarge => true
  | _ => false

/-- The faults of a host that has no more memory, or does not write or read an integer of that length. -/
def Fault.isLimit : Fault → Bool
  | outOfMemory | invalidInteger (.tooLong _ _) => true
  | _ => false

/-- The ways in which a program can finish. -/
inductive Outcome.IsProperEnd : Outcome Unit → Prop
  | done (store : Store) : IsProperEnd (.done () store)
  | failed (cause : Failure) (store : Store) : IsProperEnd (.stopped (.failure cause) store)
  | overflowed {cause : Fault} (large : cause.isOverflow = true) (store : Store) :
      IsProperEnd (.stopped (.fault cause) store)
  | misread (text : String) (store : Store) : IsProperEnd (.stopped (.fault (.invalidInteger (.notDecimal text))) store)

/-- A run comes to a moment on its way: it finishes, but stops there when it is interrupted there. -/
structure RunMoment.OccursIn (moment : RunMoment) (host : Host) (effort : Nat) (nodes : List Node) : Prop where
  finishes : ¬(runProgram host effort nodes).IsUnfinished
  stops : moment.Interrupts host effort nodes

/-! ## Programs -/

/-- A program is interrupted at the first moment that is picked out, or it stops by a fault that may escape
if it stops by a fault. -/
theorem runProgram_traces (host : Host) (halts : RunMoment → Bool) (escapes : Fault → Store → Prop)
    (excess : ∀ cause after, cause.isExcess = true → escapes cause after)
    (misread : ∀ moment effort text after, halts moment = false → moment.Misreads host effort text after →
      escapes (.invalidInteger (.notDecimal text)) after) (effort : Nat) (nodes : List Node) :
    (∃ moment, halts moment = true ∧ ∀ picks ≤ halts, picks moment = true →
      runUntil picks host effort nodes = .unfinished moment.store) ∨
    ∀ cause after, runProgram host effort nodes = .stopped (.fault cause) after → escapes cause after := by
  rcases ((interrupted_traces excess misread effort).runNodes nodes 0).ends
    (Store.initial.record (.started nodes.length)) with ⟨moment, stops⟩ | passes
  · exact .inl ⟨moment, stops.picked, stops.first⟩
  · refine .inr fun cause after crashed => passes.faults cause after ?_
    rw [← runUntil_never] at crashed
    exact crashed

theorem runProgram_isProperEnd (host : Host) (effort : Nat) (nodes : List Node) :
    (runProgram host effort nodes).IsUnfinished ∨ (runProgram host effort nodes).IsProperEnd ∨
      ∃ cause store, cause.isLimit = true ∧ runProgram host effort nodes = .stopped (.fault cause) store := by
  have noSignal (signal : Signal) (after : Store) :
      runProgram host effort nodes ≠ .stopped (.signal signal) after := by
    rw [runProgram_eq]
    exact (evaluator effort).runNodes_ne_signal nodes 0 _ signal after
  have crash (cause : Fault) (after : Store) (crashed : runProgram host effort nodes = .stopped (.fault cause) after) :
      cause.isExcess = true ∨ ∃ text, cause = .invalidInteger (.notDecimal text) := by
    have traces := runProgram_traces host (fun _ => false)
      (fun cause _ => cause.isExcess = true ∨ ∃ text, cause = .invalidInteger (.notDecimal text)) (fun _ _ => .inl)
      (fun _ _ text _ _ _ => .inr ⟨text, rfl⟩) effort nodes
    exact traces.resolve_left (fun ⟨_, picked, _⟩ => by cases picked) cause after crashed
  cases outcome : runProgram host effort nodes with
  | unfinished store => exact .inl trivial
  | done result store => exact .inr (.inl (.done store))
  | stopped reason store =>
    cases reason with
    | failure cause => exact .inr (.inl (.failed cause store))
    | signal signal => exact absurd outcome (noSignal signal store)
    | fault cause =>
      rcases crash cause store outcome with excess | ⟨text, rfl⟩
      · cases cause with
        | outOfMemory => exact .inr (.inr ⟨_, store, rfl, rfl⟩)
        | arithmetic | gapTooLarge => exact .inr (.inl (.overflowed rfl store))
        | invalidInteger bad =>
          cases bad with
          | tooLong => exact .inr (.inr ⟨_, store, rfl, rfl⟩)
          | notDecimal => cases excess
        | _ => cases excess
      · exact .inr (.inl (.misread text store))

/-- The moment at which digits are misread is the one that ends the run. -/
theorem exists_misreading {host : Host} {effort : Nat} {nodes : List Node} {text : String} {store : Store}
    (crashed : runProgram host effort nodes = .stopped (.fault (.invalidInteger (.notDecimal text))) store) :
    ∃ (moment : RunMoment) (inner : Nat), moment.OccursIn host effort nodes ∧
      moment.Misreads host inner text store := by
  classical
  let halts (moment : RunMoment) : Bool := decide (∃ inner, moment.Misreads host inner text store)
  let escapes (cause : Fault) (after : Store) : Prop := ¬(cause = .invalidInteger (.notDecimal text) ∧ after = store)
  have misread (moment : RunMoment) (effort : Nat) (other : String) (after : Store) (passed : halts moment = false)
      (misreads : moment.Misreads host effort other after) : escapes (.invalidInteger (.notDecimal other)) after := by
    rintro ⟨same, rfl⟩
    cases same
    exact of_decide_eq_false passed ⟨effort, misreads⟩
  have excess (cause : Fault) (after : Store) (large : cause.isExcess = true) : escapes cause after := by
    rintro ⟨rfl, -⟩
    cases large
  rcases runProgram_traces host halts escapes excess misread effort nodes with ⟨moment, picked, stops⟩ | faults
  · obtain ⟨inner, misreads⟩ := of_decide_eq_true picked
    refine ⟨moment, inner, ⟨?_, stops _ (fun other same => ?_) (decide_eq_true rfl)⟩, misreads⟩
    · rw [crashed]
      exact id
    · cases of_decide_eq_true same
      exact picked
  · exact absurd ⟨rfl, rfl⟩ (faults _ _ crashed)

/-! ## Calls -/

/-- No fault passes the boundary of a call. -/
theorem Exec.hosted_ne_fault {α : Type} (name : String) (step : Exec α) (host : Host) (store : Store)
    (cause : Fault) (after : Store) : hosted name step host store ≠ .stopped (.fault cause) after := by
  unfold hosted
  split
  · exact nofun
  · next outcome other =>
    intro stopped
    exact other cause after stopped

/-- Once its arguments are evaluated, a call does not crash. -/
theorem Exec.each_hosted_ne_fault {α β γ : Type} {step : α → Exec β} {items : List α} {results : List β} {host : Host}
    {store middle : Store} (evaluated : each step items host store = .done results middle) (name : String)
    (next : List β → Exec γ) (cause : Fault) (after : Store) :
    (each step items >>= fun results => hosted name (next results)) host store ≠ .stopped (.fault cause) after := by
  rw [bind_of_done evaluated]
  exact hosted_ne_fault name _ host middle cause after

theorem Node.exec_call_ne_fault {host : Host} {effort : Nat} {frame : FrameRef} {store : Store} {args : List Node}
    {values : List Value} {middle : Store} (name : String)
    (evaluated : each ((evaluator effort).argument frame) args host store = .done values middle) (cause : Fault)
    (after : Store) : (call name args).exec (effort + 1) frame host store ≠ .stopped (.fault cause) after := by
  change andThen (lookup frame name) _ host store ≠ _
  unfold andThen lookup
  cases store.lookup? frame name with
  | none => exact nofun
  | some callee =>
    dsimp only
    split
    · exact each_hosted_ne_fault evaluated name _ cause after
    · exact nofun

theorem Node.exec_method_ne_fault {host : Host} {effort : Nat} {frame : FrameRef} {store : Store} {target : Node}
    {args : List Node} {receiver : Value} {values : List Value} {found middle : Store} (name : String)
    (reached : target.exec effort frame host store = .done receiver found)
    (evaluated : each ((evaluator effort).argument frame) args host found = .done values middle) (cause : Fault)
    (after : Store) :
    (method target name args).exec (effort + 1) frame host store ≠ .stopped (.fault cause) after := by
  change andThen ((evaluator effort).exec target frame) _ host store ≠ _
  unfold andThen
  rw [show (evaluator effort).exec target frame host store = _ from reached]
  dsimp only
  split
  · exact nofun
  · exact each_hosted_ne_fault evaluated name _ cause after

/-- A program that finishes ends, fails, crashes over a number that is too large, or misreads a text of
digits, as long as it keeps within the limits of the host. The misreading takes place where an array or a
text is read by a text of digits that are not all decimal. Calls of functions and methods do not crash once
their arguments are evaluated. -/
theorem only_overflow_and_misreading_escape (host : Host) :
    (∀ effort nodes, (runProgram host effort nodes).IsUnfinished ∨ (runProgram host effort nodes).IsProperEnd ∨
      ∃ cause store, cause.isLimit = true ∧ runProgram host effort nodes = .stopped (.fault cause) store) ∧
    (∀ effort nodes text store, runProgram host effort nodes = .stopped (.fault (.invalidInteger (.notDecimal text))) store →
      ∃ (moment : RunMoment) (inner : Nat), moment.OccursIn host effort nodes ∧
        moment.Misreads host inner text store) ∧
    (∀ effort frame store name args values middle,
      each ((evaluator effort).argument frame) args host store = .done values middle →
      ∀ cause after, (Node.call name args).exec (effort + 1) frame host store ≠ .stopped (.fault cause) after) ∧
    ∀ effort frame store target name args receiver found values middle,
      target.exec effort frame host store = .done receiver found →
      each ((evaluator effort).argument frame) args host found = .done values middle →
      ∀ cause after,
        (Node.method target name args).exec (effort + 1) frame host store ≠ .stopped (.fault cause) after :=
  ⟨runProgram_isProperEnd host, fun _ _ _ _ => exists_misreading,
    fun _ _ _ name _ _ _ evaluated => Node.exec_call_ne_fault name evaluated,
    fun _ _ _ _ name _ _ _ _ _ reached evaluated => Node.exec_method_ne_fault name reached evaluated⟩

/-- Reading an array by a superscript crashes the program. A function that is given too many arguments
crashes too, but neither a call of it does nor a method that calls it. -/
theorem superscript_escapes_and_extra_argument_does_not :
    let program : List Node := [.element (.array [.literal (.number (.int 7))]) (.literal (.string "²"))]
    let call : Node := .call "now" [.literal .null]
    let method : Node := .method (.array [.literal (.number (.int 7))]) "filter" [.reference "now"]
    (∃ store, runProgram default 3 program = .stopped (.fault (.invalidInteger (.notDecimal "²"))) store ∧
      ∃ (moment : RunMoment) (inner : Nat), moment.OccursIn default 3 program ∧
        moment.Misreads default inner "²" store) ∧
    (∃ store, callWithin 2 (Store.builtinRef .now) [.null] default .initial =
      .stopped (.fault (.tooManyArguments .now 1)) store) ∧
    (∀ cause after, call.exec 3 Store.root default .initial ≠ .stopped (.fault cause) after) ∧
    ∀ cause after, method.exec 3 Store.root default .initial ≠ .stopped (.fault cause) after := by
  intro program call method
  obtain ⟨reason, store, crashed, crashes⟩ := Outcome.exists_of_isStopped (runProgram default 3 program)
    (·.isFault (· == .invalidInteger (.notDecimal "²"))) (by decide +kernel)
  have escape := only_overflow_and_misreading_escape default
  refine ⟨?_, ⟨_, rfl⟩, escape.2.2.1 2 _ _ _ _ _ _ rfl, escape.2.2.2 2 _ _ _ _ _ _ _ _ _ rfl rfl⟩
  cases reason with
  | fault cause =>
    cases (of_decide_eq_true crashes : cause = _)
    exact ⟨store, crashed, escape.2.1 3 program _ store crashed⟩
  | _ => cases crashes

end TreeScript
