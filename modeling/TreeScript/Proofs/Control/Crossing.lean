import TreeScript.Proofs.Conduct.Execution
import TreeScript.Proofs.Conduct.Frames
import TreeScript.Proofs.Conduct.Functions
import TreeScript.Proofs.Conduct.Programs
import TreeScript.Proofs.Tree.Sites

/-! # Signals and calls

A call of a function literal, memoized or not, and a call of a built-in never end by a signal. An arrow
is evaluated as it stands, so a signal that its body lets out goes on into the caller, where it ends a
loop or a function that it was not written in. It does so in no other way: if no arrow lets a jump of
some kind out of its body, then an execution ends by a signal of that kind only if the jump stands in
the text that is executed, whatever functions are called on the way.
-/

namespace TreeScript

/-- Whether a jump that is made at a site stays in the function: in a function literal every jump
does, in an arrow only those to a loop of its own. -/
def Jump.isKeptAt (site : Site) : Jump → Bool
  | giveBack => !site.inArrow
  | breakLoop | continueLoop => site.inLoop || !site.inArrow

/-- Whether a node makes no jump of a kind that leaves an arrow from where the node stands. -/
def Node.keeps (jump : Jump) (site : Site) (node : Node) : Bool :=
  node.jump? != some jump || jump.isKeptAt site

/-- Whether the arrows in the text of a function, and the function itself if it is one, keep the
jumps of a kind inside. -/
def Callable.keeps (jump : Jump) : Callable → Bool
  | builtin _ => true
  | closure function | memoized function _ =>
    allEverywhere (Node.keeps jump) .ofFunction function.body
  | arrow _ body _ => body.everywhere (Node.keeps jump) .ofArrow

/-- All functions in the store keep the jumps of a kind inside. -/
abbrev Store.Keeps (jump : Jump) : Store → Prop :=
  Store.EachFunction fun function => function.keeps jump = true

namespace Conduct

/-- The conduct of what stands at a site: a signal of the given kind goes out only where a construct
of the same function may take it. -/
def keeping (jump : Jump) (site : Site) : Conduct :=
  overFunctions (fun function => function.keeps jump = true) fun reason =>
    ∀ signal, reason = .signal signal → signal.jump = jump → jump.isKeptAt site = true

variable {jump : Jump} {site : Site}

theorem keeping_lawful : (keeping jump site).Lawful :=
  overFunctions_lawful (fun _ kept => kept) _

theorem keeping_permissive : (keeping jump site).Permissive where
  failure _ := by simp [keeping, overFunctions]
  fault := by simp [keeping, overFunctions]

theorem keeping_inLoop : (keeping jump site).InLoop (keeping jump site.looping) where
  enter := id
  leave := id
  writable := id
  stops := by
    intro reason allowed notBroken notContinued signal same kind
    subst same
    have taken := allowed signal rfl kind
    cases signal with
    | returned value =>
      subst kind
      exact taken
    | broken => exact absurd rfl notBroken
    | continued => exact absurd rfl notContinued

/-- Whatever goes on in the body of a function literal, no signal comes out of its call. -/
theorem keeping_inCall : (keeping jump site).InCall (keeping jump .ofFunction) where
  enter := id
  leave := id
  writable := id
  failures _ := by simp [keeping, overFunctions]
  faults _ := by simp [keeping, overFunctions]
  strays _ _ := by simp [keeping, overFunctions]

end Conduct

variable {jump : Jump} {site : Site}

/-- What lets no signal of a kind out of an arrow lets none out anywhere. -/
theorem Exec.Follows.keeping_anywhere {α : Type} {step : Exec α}
    (follows : step.Follows (.keeping jump .ofArrow)) (site : Site) :
    step.Follows (.keeping jump site) := by
  refine ⟨fun host store holds => ?_⟩
  refine (follows.meets host store holds).mono (fun _ _ kept => kept) ?_ (fun _ kept => kept)
  rintro reason after ⟨allowed, kept⟩
  refine ⟨fun signal same kind => ?_, kept⟩
  have taken := allowed signal same kind
  cases jump <;> simp [Jump.isKeptAt, Site.ofArrow] at taken

/-- Where an arrow ends, no signal of the kind is let out. -/
theorem Exec.Follows.not_kept {α : Type} {step : Exec α} {signal : Signal}
    (follows : step.Follows (.keeping signal.jump .ofArrow)) {host : Host} {store after : Store}
    (keeps : store.Keeps signal.jump) : step host store ≠ .stopped (.signal signal) after := by
  intro stopped
  have ends := follows.meets host store keeps
  rw [stopped] at ends
  have taken := ends.1 signal rfl rfl
  cases kind : signal.jump <;> simp [kind, Jump.isKeptAt, Site.ofArrow] at taken

/-- A jump that a node makes itself is kept where the node stands. -/
theorem Conduct.keeping_allows {node : Node} (keeps : node.keeps jump site = true) {signal : Signal}
    (makes : node.jump? = some signal.jump) : (keeping jump site).allows (.signal signal) := by
  intro other same kind
  cases same
  rw [Node.keeps, makes, kind] at keeps
  simpa using keeps

/-- A function literal takes all signals of its body, and the body of an arrow lets none out. -/
theorem Conduct.keeping_regime (jump : Jump) :
    Regime (keeping jump) fun site node => node.everywhere (Node.keeps jump) site = true where
  lawful _ := keeping_lawful
  permissive _ := keeping_permissive
  writable := id
  inLoop _ := keeping_inLoop
  inCall _ := keeping_inCall
  inArrow site _ follows := follows.keeping_anywhere site
  parts keeps := (Node.everywhere_iff.mp keeps).2
  jumps keeps := keeping_allows (Node.everywhere_iff.mp keeps).1
  makes keeps made := by
    cases made <;>
      · rw [Node.everywhere, Bool.and_eq_true] at keeps
        exact keeps.2
  literal keeps := allEverywhere_iff.mp keeps
  memoized := id
  arrow := id

/-- Signals of a kind come out of nodes only where they are written, and out of calls not at all. -/
structure Evaluator.FollowsKeeping (jump : Jump) (ev : Evaluator) : Prop where
  exec : ∀ {site node}, node.everywhere (Node.keeps jump) site = true → ∀ frame,
    (ev.exec node frame).Follows (.keeping jump site)
  call : ∀ site ref args, (ev.call ref args).Follows (.keeping jump site)

/-- Every evaluator lets signals out only where they are written. -/
theorem evaluator_followsKeeping (jump : Jump) (effort : Nat) :
    (evaluator effort).FollowsKeeping jump := by
  have sites := (Conduct.keeping_regime jump).evaluator effort
  exact ⟨fun keeps _ => sites.exec _ keeps (.inl trivial), sites.call⟩

/-- In every store that a run leads to, the functions keep jumps inside if the program does. -/
theorem runProgram_keeps {nodes : List Node}
    (keeps : allEverywhere (Node.keeps jump) .ofFunction nodes = true) (host : Host) (effort : Nat) :
    (runProgram host effort nodes).store.Keeps jump := by
  have reporting : (Conduct.keeping jump .ofFunction).Reporting :=
    ⟨fun kept _ => kept, by simp [Conduct.keeping, Conduct.overFunctions]⟩
  have follows := reporting.execProgram fun node member =>
    (evaluator_followsKeeping jump effort).exec (allEverywhere_iff.mp keeps node member) Store.root
  exact follows.holds_store host (Store.initial_eachFunction fun _ => rfl)

/-! ## Calls that end by a signal -/

namespace Conduct

/-- Stop for any reason other than a signal. -/
def silent : Conduct := overFunctions (fun _ => True) fun reason => ∀ signal, reason ≠ .signal signal

/-- Do anything. -/
def anything : Conduct := overFunctions (fun _ => True) fun _ => True

theorem silent_lawful : silent.Lawful := overFunctions_lawful (fun _ _ => trivial) _

theorem silent_permissive : silent.Permissive where
  failure _ := by simp [silent, overFunctions]
  fault := by simp [silent, overFunctions]

theorem anything_tolerant : anything.Tolerant := ⟨fun _ => trivial, trivial⟩

theorem silent_inCall : silent.InCall anything where
  enter := id
  leave := id
  writable := id
  failures _ := by simp [silent, overFunctions]
  faults _ := by simp [silent, overFunctions]
  strays _ _ := by simp [silent, overFunctions]

end Conduct

theorem Exec.follows_anything {α : Type} (step : Exec α) : step.Follows .anything := by
  have free (store : Store) : Conduct.anything.holds store := fun _ _ _ => trivial
  refine ⟨fun host store _ => ?_⟩
  cases step host store with
  | done result after => exact free after
  | stopped reason after => exact ⟨trivial, free after⟩
  | unfinished after => exact free after

/-- What stops for no signal does not stop by one. -/
theorem Exec.Follows.ne_signal {α : Type} {step : Exec α} (follows : step.Follows .silent) {host : Host}
    {store after : Store} {signal : Signal} : step host store ≠ .stopped (.signal signal) after := by
  intro stopped
  have ends := follows.meets host store fun _ _ _ => trivial
  rw [stopped] at ends
  exact ends.1 signal rfl

namespace Evaluator

variable (ev : Evaluator) {ref : FunctionRef} {args : List Value} {host : Host} {store : Store}

theorem callFunction_of_arrow {params : List String} {body : Node} {scope : FrameRef}
    (found : store.functions[ref]? = some (.arrow params body scope)) :
    ev.callFunction ref args host store =
      ev.exec body store.frames.size host (store.enterArrow params scope args) := by
  rw [← callArrow_eq]
  exact callFunction_eq found

/-- Function literals, memoized or not, and built-ins take all signals themselves. -/
theorem callFunction_ne_signal
    (other : ∀ params body scope, store.functions[ref]? ≠ some (.arrow params body scope))
    (signal : Signal) (after : Store) :
    ev.callFunction ref args host store ≠ .stopped (.signal signal) after := by
  have lawful := Conduct.silent_lawful.habit Conduct.silent_permissive
  have closures (function : Closure) : Conduct.silent.habit.Keeps fun _ => ev.callClosure function args :=
    lawful.callClosure (k := ()) (fun _ => Conduct.silent_inCall.habit) trivial
      (fun _ _ _ _ _ => Exec.follows_anything _) (fun _ => Conduct.anything_tolerant.habit) args
  unfold callFunction
  change Exec.andThen (Exec.read _) _ host store ≠ _
  simp only [Exec.andThen, Exec.read]
  cases found : store.functions[ref]? with
  | none => simp [Exec.unfinished]
  | some callable =>
    cases callable with
    | builtin function =>
      exact (Builtin.follows_call Conduct.silent_lawful.toSturdy Conduct.silent_permissive.tolerant function
        args).ne_signal
    | closure function => exact Exec.Follows.ne_signal (closures function)
    | memoized function cache =>
      exact Exec.Follows.ne_signal (lawful.callMemoized (k := ()) (closures function))
    | arrow params body scope => exact absurd found (other params body scope)

end Evaluator

/-- Exactly those calls end by a signal that call an arrow whose body, executed in the frame of the
call, ends by the signal. If no arrow in the text of the functions lets jumps of the kind out, then
there are no such calls; and then an execution ends by such a signal only if the jump stands in the
text of the executed node itself, so a loop or a function is never ended by a jump of a callee. -/
theorem callWithin_signal_iff_arrow (effort : Nat) (ref : FunctionRef) (args : List Value) (host : Host)
    (store : Store) (signal : Signal) :
    ((∃ after, callWithin (effort + 1) ref args host store = .stopped (.signal signal) after) ↔
      ∃ params body scope, store.functions[ref]? = some (.arrow params body scope) ∧
        ∃ after, body.exec effort store.frames.size host (store.enterArrow params scope args) =
          .stopped (.signal signal) after) ∧
    (store.Keeps signal.jump →
      (∀ after, callWithin (effort + 1) ref args host store ≠ .stopped (.signal signal) after) ∧
      ∀ (node : Node) (frame : FrameRef) (after : Store),
        node.everywhere (Node.keeps signal.jump) .ofArrow = true →
        node.exec effort frame host store ≠ .stopped (.signal signal) after) := by
  refine ⟨⟨?_, ?_⟩, fun keeps => ⟨?_, ?_⟩⟩
  · rintro ⟨after, stopped⟩
    refine Classical.byContradiction fun noArrow => ?_
    refine (evaluator effort).callFunction_ne_signal (fun params body scope found => ?_) signal after
      stopped
    have inside := ((evaluator effort).callFunction_of_arrow found).symm.trans stopped
    exact noArrow ⟨params, body, scope, found, after, inside⟩
  · rintro ⟨params, body, scope, found, after, stopped⟩
    exact ⟨after, ((evaluator effort).callFunction_of_arrow found).trans stopped⟩
  · intro after stopped
    exact ((evaluator_followsKeeping _ (effort + 1)).call .ofArrow ref args).not_kept keeps stopped
  · intro node frame after inside stopped
    exact ((evaluator_followsKeeping _ effort).exec inside frame).not_kept keeps stopped

/-- The arrow leaves its loop by a jump, which the loop takes; so no call of it is left by the jump,
and neither is a loop that calls it. -/
theorem callWithin_of_arrow_with_loop :
    let loop : Node := .forEach "item" (.reference "items") [.breakLoop]
    let caller : Node := .forEach "round" (.array [.literal .null]) [.call "visit" [.reference "round"]]
    let store := (runProgram default 9 [.declare "function" "visit" (.arrow ["items"] loop)]).store
    store.functions[10]? = some (.arrow ["items"] loop Store.root) ∧ store.Keeps .breakLoop ∧
      caller.everywhere (Node.keeps .breakLoop) .ofArrow = true ∧
      (∀ args host after, callWithin 9 10 args host store ≠ .stopped (.signal .broken) after) ∧
      ∀ host after, caller.exec 9 Store.root host store ≠ .stopped (.signal .broken) after := by
  intro loop caller store
  have arrow : store.functions[10]? = some (.arrow ["items"] loop Store.root) := by rfl
  have keeps : store.Keeps .breakLoop := runProgram_keeps (by decide) default 9
  have inside : caller.everywhere (Node.keeps .breakLoop) .ofArrow = true := by decide
  refine ⟨arrow, keeps, inside, fun args host after => ?_, fun host after => ?_⟩
  · exact ((callWithin_signal_iff_arrow 8 10 args host store .broken).2 keeps).1 after
  · exact ((callWithin_signal_iff_arrow 9 10 [] host store .broken).2 keeps).2 caller _ after inside

/-- The body of an arrow jumps, and the jump ends the call and the loop of the caller: the second
round is never printed. -/
theorem runProgram_jump_leaves_arrow :
    let program : List Node := [
      .declare "function" "stop" (.arrow [] (.block [.breakLoop])),
      .forEach "round" (.array [.literal (.number (.int 1)), .literal (.number (.int 2))])
        [.call "print" [.reference "round"], .call "stop" []]]
    (∃ after, callWithin 9 10 [] default (runProgram default 9 program).store =
      .stopped (.signal .broken) after) ∧
    ∃ final, runProgram default 9 program = .done () final ∧ final.output = "1\n" := by
  intro program
  obtain ⟨reason, after, stopped, jumps⟩ := Outcome.exists_of_isStopped
    (callWithin 9 10 [] default (runProgram default 9 program).store) (·.isSignal (·.jump == .breakLoop))
    (by decide +kernel)
  obtain ⟨_, final, done, prints⟩ := Outcome.exists_of_isDone (runProgram default 9 program)
    (fun _ final => final.output == "1\n") (by decide +kernel)
  refine ⟨⟨after, ?_⟩, final, done, eq_of_beq prints⟩
  cases reason with
  | signal signal =>
    cases signal with
    | broken => exact stopped
    | _ => cases jumps
  | _ => cases jumps

end TreeScript
