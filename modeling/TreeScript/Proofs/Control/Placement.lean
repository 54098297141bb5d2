import TreeScript.Proofs.Conduct.Execution
import TreeScript.Proofs.Conduct.Functions
import TreeScript.Proofs.Conduct.Programs

/-! # Well-placed jumps never go astray

A jump is well placed if a construct of the same function takes it: `break` and `continue` stand in
the body of a loop, `return` in the body of a function literal. The condition, the parts and the
iterable of a loop lie outside that loop, and an arrow takes no jump. Placement is a property of the
text of a program alone, but functions carry their bodies away from where they were written, into
variables, arrays, objects and caches; what keeps the property is that every function in the store
has a well-placed body, so a call ends without a signal wherever it is made. Hence no failure about
a stray signal comes up in a run of a well-placed program, neither caught nor uncaught, and also not
in a run that does not end.
-/

namespace TreeScript

/-- Whether the jump that a host's node makes is taken by a loop or function literal around it. -/
def HostAction.isPlaced (site : Site) : HostAction → Bool
  | breakLoop | continueLoop => site.inLoop
  | returnValue _ => !site.inArrow
  | _ => true

/-- Whether the jump that a node makes, if any, is taken by a construct of its own function. -/
def Node.isPlaced (site : Site) : Node → Bool
  | giveBack _ => !site.inArrow
  | breakLoop | continueLoop => site.inLoop
  | host _ action _ => action.isPlaced site
  | _ => true

/-- Whether the body of a function is well placed in that function. -/
def Callable.isPlaced : Callable → Bool
  | builtin _ => true
  | closure function | memoized function _ => allEverywhere Node.isPlaced .ofFunction function.body
  | arrow _ body _ => body.everywhere Node.isPlaced .ofArrow

/-- Every function has a well-placed body, and no handler received a failure about a stray signal. -/
structure Store.InPlace (store : Store) : Prop where
  functions : ∀ (ref : FunctionRef) function, store.functions[ref]? = some function →
    function.isPlaced = true
  caught : ∀ cause ∈ store.caught, cause.isStray = false

/-- The failures about stray signals are those with the code E310. -/
theorem Failure.code_eq_stray_iff (cause : Failure) :
    cause.code = "E310" ↔ cause.isStray = true := by
  cases cause <;> simp [code, isStray]

namespace Conduct

/-- The conduct of what stands in the body of a loop, or of a function literal: only the signals
that these take leave it. -/
def placed (site : Site) : Conduct where
  holds := Store.InPlace
  writable _ := True
  makes function := function.isPlaced = true
  allows
    | .failure cause => cause.isStray = false
    | .fault _ => True
    | .signal (.returned _) => site.inArrow = false
    | .signal _ => site.inLoop = true

variable {site : Site}

private theorem record_inPlace {store : Store} (inPlace : store.InPlace) {entry : Entry}
    (clean : ∀ cause, entry.caught? = some cause → cause.isStray = false) :
    { store with transcript := store.transcript.push entry }.InPlace :=
  ⟨inPlace.functions, Store.forall_caught_push inPlace.caught clean⟩

theorem placed_lawful : (placed site).Lawful where
  define inPlace _ := ⟨inPlace.functions, inPlace.caught⟩
  addFrame inPlace := ⟨inPlace.functions, inPlace.caught⟩
  fresh _ := trivial
  addArray inPlace := ⟨inPlace.functions, inPlace.caught⟩
  addObject inPlace _ := ⟨inPlace.functions, inPlace.caught⟩
  addFunction inPlace makes := ⟨Store.EachFunction.addFunction inPlace.functions makes, inPlace.caught⟩
  made inPlace found := inPlace.functions _ _ found
  updateArray inPlace := ⟨inPlace.functions, inPlace.caught⟩
  remember inPlace := ⟨Store.EachFunction.remember inPlace.functions (fun _ kept => kept) _ _ _, inPlace.caught⟩
  caught inPlace allowed := record_inPlace inPlace fun _ same => by
    cases same
    exact allowed
  memoHit inPlace := record_inPlace inPlace fun _ same => by cases same
  fetchStarted inPlace := record_inPlace inPlace fun _ same => by cases same
  fetchFailed inPlace := record_inPlace inPlace fun _ same => by cases same
  write inPlace := record_inPlace inPlace fun _ same => by cases same
  request inPlace := ⟨inPlace.functions, inPlace.caught⟩

theorem placed_permissive : (placed site).Permissive where
  failure notStray := notStray
  fault := trivial

theorem placed_allows {node : Node} (placed : node.isPlaced site = true) {signal : Signal}
    (makes : node.jump? = some signal.jump) : (Conduct.placed site).allows (.signal signal) := by
  cases node with
  | giveBack | breakLoop | continueLoop =>
    cases signal <;> simp_all [Node.isPlaced, Conduct.placed, Node.jump?, Signal.jump]
  | host name action type =>
    cases action <;> cases signal <;>
      simp_all [Node.isPlaced, HostAction.isPlaced, Conduct.placed, Node.jump?, Signal.jump]
  | _ => cases makes

/-- A loop takes the jumps that its body may make. -/
theorem placed_inLoop : (placed site).InLoop (placed site.looping) where
  enter := id
  leave := id
  writable := id
  stops := by
    intro reason allowed notBroken notContinued
    cases reason with
    | failure | fault => exact allowed
    | signal signal =>
      cases signal with
      | returned value => exact allowed
      | broken => exact absurd rfl notBroken
      | continued => exact absurd rfl notContinued

/-- The body of a function literal makes no jump but `return`, so a call of it makes none. -/
theorem placed_inCall : (placed site).InCall (placed .ofFunction) where
  enter := id
  leave := id
  writable := id
  failures := id
  faults := id
  strays := by
    intro signal name allowed notReturned
    cases signal with
    | returned value => exact absurd rfl (notReturned value)
    | broken | continued => cases allowed

end Conduct

/-- What makes no jump may stand anywhere. -/
theorem Exec.Follows.anywhere {α : Type} {step : Exec α} (follows : step.Follows (.placed .ofArrow)) (site : Site) :
    step.Follows (.placed site) := by
  refine ⟨fun host store holds => ?_⟩
  refine (follows.meets host store holds).mono (fun _ _ kept => kept) ?_ (fun _ kept => kept)
  rintro reason after ⟨allowed, kept⟩
  refine ⟨?_, kept⟩
  cases reason with
  | failure | fault => exact allowed
  | signal signal => cases signal <;> cases allowed

/-- The conducts of well-placed nodes. The text outside of functions lets no `return` out, as that of an
arrow. -/
theorem Conduct.placed_regime : Regime placed fun site node => node.everywhere Node.isPlaced site = true where
  lawful _ := placed_lawful
  permissive _ := placed_permissive
  writable := id
  inLoop _ := placed_inLoop
  inCall _ := placed_inCall
  inArrow _ _ follows := follows.anywhere _
  parts placed := (Node.everywhere_iff.mp placed).2
  jumps placed := placed_allows (Node.everywhere_iff.mp placed).1
  makes placed made := by
    cases made <;>
      · simp only [Node.everywhere, Bool.and_eq_true] at placed
        exact placed.2
  literal placed := allEverywhere_iff.mp placed
  memoized := id
  arrow := id

/-! ## Programs -/

/-- At the top level, where no construct would take a signal, none arrives. -/
theorem Conduct.placed_reporting : (placed .ofArrow).Reporting where
  record {_ event} inPlace plain := record_inPlace inPlace fun _ same => by
    cases event with
    | caught cause => exact absurd rfl (plain cause)
    | _ => cases same
  strays {signal _} may := by cases signal <;> cases may

private theorem initial_inPlace : Store.initial.InPlace :=
  ⟨Store.initial_eachFunction fun _ => rfl, fun _ member => by cases member⟩

theorem execProgram_follows {nodes : List Node} (placed : allEverywhere Node.isPlaced .ofArrow nodes = true)
    (effort : Nat) : (execProgram effort nodes).Follows (.placed .ofArrow) :=
  Conduct.placed_reporting.execProgram fun node member =>
    (Conduct.placed_regime.evaluator effort).exec .ofArrow (allEverywhere_iff.mp placed node member) (.inl trivial)

private theorem Outcome.Meets.no_stray {α : Type} {outcome : Outcome α}
    (meets : outcome.Meets (Conduct.placed .ofArrow).ending) :
    ∀ cause ∈ outcome.failures, cause.isStray = false := by
  refine Outcome.forall_failures ?_ ?_
  · cases outcome with
    | done | unfinished => exact meets.caught
    | stopped => exact meets.2.caught
  · rintro cause store rfl
    exact meets.1

/-- In a run of a well-placed program, no failure has the code of a stray signal: neither the one
that ends the run, nor one that a handler receives, and hence no description that a handler binds. -/
theorem runProgram_never_stray {nodes : List Node} (placed : allEverywhere Node.isPlaced .ofArrow nodes = true)
    (host : Host) (effort : Nat) :
    ∀ cause ∈ (runProgram host effort nodes).failures,
      cause.code ≠ "E310" ∧ cause.entries.get? "code" ≠ some (.string "E310") := by
  intro cause member
  have ends := (execProgram_follows placed effort).meets host .initial initial_inPlace
  have notStray : cause.isStray = false := ends.no_stray cause member
  have otherCode : cause.code ≠ "E310" := by
    rw [Ne, cause.code_eq_stray_iff, notStray]
    exact Bool.false_ne_true
  refine ⟨otherCode, ?_⟩
  simpa [Failure.entries, Table.get?] using otherCode

/-- A loop in a function is left by `break` and by `return`, from inside of a handler and of a
branch; the one failure of the run is the one that the program raises itself. -/
theorem runProgram_jumps_in_place :
    let program : List Node := [
      .declare "function" "first" (.function none ["items"]
        [.forEach "item" (.reference "items")
          [.tryCatch [.raise (.reference "item")] "error"
            [.branch (.literal (.bool true)) [.giveBack (some (.reference "error"))] none,
             .breakLoop]]]
        none none true),
      .declare "object" "found" (.call "first" [.array [.literal (.string "a")]])]
    allEverywhere Node.isPlaced .ofArrow program = true ∧
      (runProgram default 9 program).failures.map Failure.code = ["E401"] ∧
      ∀ cause ∈ (runProgram default 9 program).failures,
        cause.code ≠ "E310" ∧ cause.entries.get? "code" ≠ some (.string "E310") :=
  ⟨by rfl, by decide +kernel, runProgram_never_stray (by rfl) default 9⟩

end TreeScript
