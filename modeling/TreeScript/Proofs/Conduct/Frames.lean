import TreeScript.Eval

/-! # The frames of calls

Entering a scope and binding names always succeed, so the store in which the body of a function is
executed can be given outright. What a call does depends on the function that it finds in the store,
and for functions that remember on what they remember.
-/

namespace TreeScript

namespace Store

/-- Bind names to values in a frame, in order. -/
def defineAll (store : Store) (frame : FrameRef) : List String → List Value → Store
  | name :: names, value :: values => (store.define frame name value).defineAll frame names values
  | _, _ => store

/-- The store in which the body of a function literal is executed. -/
def enterClosure (store : Store) (function : Closure) (args : List Value) : Store :=
  (store.addFrame function.scope ("call " ++ function.name)).2.defineAll store.frames.size
    function.params args

/-- The store in which the body of an arrow is executed: missing arguments are undefined. -/
def enterArrow (store : Store) (params : List String) (scope : FrameRef) (args : List Value) :
    Store :=
  (store.addFrame scope "arrow").2.defineAll store.frames.size params
    (args ++ List.replicate params.length .undefined)

end Store

theorem bindAll_eq (frame : FrameRef) (names : List String) (values : List Value) (host : Host)
    (store : Store) :
    bindAll frame names values host store = .done () (store.defineAll frame names values) := by
  induction names generalizing values store with
  | nil => rfl
  | cons name names ih =>
    cases values with
    | nil => rfl
    | cons value values => exact ih values (store.define frame name value)

namespace Evaluator

variable (ev : Evaluator) (host : Host) (store : Store)

/-- A function literal that is given as many arguments as it has parameters. -/
theorem callClosure_eq {function : Closure} {args : List Value}
    (enough : args.length = function.params.length) :
    ev.callClosure function args host store =
      absorbReturn function.name (ev.run store.frames.size function.body) host
        (store.enterClosure function args) := by
  rw [callClosure, if_pos enough]
  change Exec.andThen (bindAll _ _ _) _ host _ = _
  rw [Exec.andThen, bindAll_eq]
  rfl

theorem callArrow_eq (params : List String) (body : Node) (scope : FrameRef) (args : List Value) :
    ev.callArrow params body scope args host store =
      ev.exec body store.frames.size host (store.enterArrow params scope args) := by
  change Exec.andThen (bindAll _ _ _) _ host _ = _
  rw [Exec.andThen, bindAll_eq]
  rfl

/-! ## Finding the function -/

variable {ev host store} {ref : FunctionRef} {function : Closure} {cache : Table Value} {key : String}
  {result : Value} {args : List Value}

/-- A list of arguments has a key, or it has an integer that is too long or a value that contains itself. -/
theorem keyOf_cases (args : List Value) (host : Host) (store : Store) :
    (∃ key, store.key? args host.identity = some key ∧ Exec.keyOf args host store = .done key store) ∨
      host.digitLimit ≠ 0 ∧ Exec.keyOf args host store = .stopped (.fault (host.tooLong none)) store ∨
      store.key? args host.identity = none ∧ Exec.keyOf args host store = .unfinished store := by
  cases keyed : store.key? args host.identity with
  | none => exact .inr (.inr ⟨rfl, by simp only [Exec.keyOf, Exec.spell, keyed]⟩)
  | some key =>
    simp only [Exec.keyOf, Exec.spell, keyed]
    split
    · exact .inl ⟨key, rfl, rfl⟩
    · next long =>
      refine .inr (.inl ⟨fun unlimited => long ?_, rfl⟩)
      simp [Host.writes, unlimited]

theorem callMemoized_of_stopped {reason : Stop} (unkeyed : Exec.keyOf args host store = .stopped reason store) :
    ev.callMemoized ref function cache args host store = .stopped reason store := by
  change Exec.andThen _ _ host store = _
  rw [Exec.andThen, unkeyed]

theorem callMemoized_of_unkeyed (unkeyed : Exec.keyOf args host store = .unfinished store) :
    ev.callMemoized ref function cache args host store = .unfinished store := by
  change Exec.andThen _ _ host store = _
  rw [Exec.andThen, unkeyed]

theorem callMemoized_of_hit (keyed : Exec.keyOf args host store = .done key store)
    (entry : cache.get? key = some result) :
    ev.callMemoized ref function cache args host store =
      .done result (store.record (.memoHit ⟨ref, args, function.name, key⟩)) := by
  change Exec.andThen _ _ host store = _
  simp only [Exec.andThen, keyed, entry]
  rfl

theorem callMemoized_of_miss (keyed : Exec.keyOf args host store = .done key store)
    (absent : cache.get? key = none) :
    ev.callMemoized ref function cache args host store =
      (ev.callClosure function args >>= fun result => do
        Exec.change (·.remember ref key result)
        return result) host store := by
  change Exec.andThen _ _ host store = _
  simp only [Exec.andThen, keyed, absent]

theorem callFunction_of_none (absent : store.functions[ref]? = none) :
    ev.callFunction ref args host store = .unfinished store := by
  unfold callFunction
  change Exec.andThen _ _ host store = _
  simp only [Exec.andThen, Exec.read, absent]
  rfl

theorem callFunction_eq {callable : Callable} (found : store.functions[ref]? = some callable) :
    ev.callFunction ref args host store =
      match callable with
      | .builtin function => function.call args host store
      | .closure function => ev.callClosure function args host store
      | .memoized function cache => ev.callMemoized ref function cache args host store
      | .arrow params body scope => ev.callArrow params body scope args host store := by
  unfold callFunction
  change Exec.andThen _ _ host store = _
  simp only [Exec.andThen, Exec.read, found]
  cases callable <;> rfl

end Evaluator

end TreeScript
