import TreeScript.Eval

/-! # Statements about how steps end

A step ends with a result, stopped, or out of effort, and each of the three ends leaves a store. An
*ending* makes one statement about each; `Outcome.Meets` says that an outcome is as stated, and
`meets_bind` and `meets_settle` take apart the steps that go on after another one.

Much of what is known about execution has one form: something holds of every store, and steps stop
only for reasons of a certain sort. A *conduct* is such a rule. It also says which frames may be
written and which functions may be made, so that the store is only ever changed within the rule.
The combinators of steps follow a conduct as soon as their parts do; that a given conduct holds of
all programs is left to the modules that use it.
-/

namespace TreeScript

variable {α β : Type}

namespace Stop

/-- Whether the reason is a failure that passes a test. -/
def isFailure (test : Failure → Bool) : Stop → Bool
  | failure cause => test cause
  | _ => false

/-- Whether the reason is a signal that passes a test. -/
def isSignal (test : Signal → Bool) : Stop → Bool
  | signal jump => test jump
  | _ => false

/-- Whether the reason is a fault that passes a test. -/
def isFault (test : Fault → Bool) : Stop → Bool
  | fault cause => test cause
  | _ => false

end Stop

/-- What is stated about the end of a step, for each way to end. -/
structure Ending (α : Type) where
  done : α → Store → Prop
  stopped : Stop → Store → Prop
  unfinished : Store → Prop

namespace Outcome

/-- The outcome is as stated. -/
def Meets (ending : Ending α) : Outcome α → Prop
  | .done result store => ending.done result store
  | .stopped reason store => ending.stopped reason store
  | .unfinished store => ending.unfinished store

/-- The store that is left at the end, whichever way the step ended. -/
def store : Outcome α → Store
  | .done _ store | .stopped _ store | .unfinished store => store

/-- Whether there is a result, and it passes a test together with the store. -/
def isDone (test : α → Store → Bool) : Outcome α → Bool
  | .done result store => test result store
  | _ => false

/-- Whether there was a stop, for a reason that passes a test. -/
def isStopped (test : Stop → Bool) : Outcome α → Bool
  | .stopped reason _ => test reason
  | _ => false

/-- Whether an integer was too long for a host that writes and reads so many digits. -/
def stoppedTooLong (limit : Nat) : Outcome α → Bool
  | .stopped (.fault (.invalidInteger (.tooLong most _))) _ => most == limit
  | _ => false

theorem exists_of_isDone (outcome : Outcome α) (test : α → Store → Bool) (passes : outcome.isDone test = true) :
    ∃ result store, outcome = .done result store ∧ test result store = true := by
  cases outcome with
  | done result store => exact ⟨result, store, rfl, passes⟩
  | _ => cases passes

theorem exists_of_isStopped (outcome : Outcome α) (test : Stop → Bool) (passes : outcome.isStopped test = true) :
    ∃ reason store, outcome = .stopped reason store ∧ test reason = true := by
  cases outcome with
  | stopped reason store => exact ⟨reason, store, rfl, passes⟩
  | _ => cases passes

theorem Meets.mono {ending weaker : Ending α} {outcome : Outcome α} (meets : outcome.Meets ending)
    (done : ∀ result store, ending.done result store → weaker.done result store)
    (stopped : ∀ reason store, ending.stopped reason store → weaker.stopped reason store)
    (unfinished : ∀ store, ending.unfinished store → weaker.unfinished store) :
    outcome.Meets weaker := by
  cases outcome with
  | done result store => exact done result store meets
  | stopped reason store => exact stopped reason store meets
  | unfinished store => exact unfinished store meets

end Outcome

/-- The failure that a handler received, if the entry reports one. -/
def Entry.caught? : Entry → Option Failure
  | reported (.caught cause) => some cause
  | _ => none

namespace Store

/-- The failures that handlers received so far. -/
def caught (store : Store) : List Failure := store.transcript.toList.filterMap Entry.caught?

/-- What holds of the failures that handlers received holds after one more entry. -/
theorem forall_caught_push {holds : Failure → Prop} {store : Store} {entry : Entry}
    (earlier : ∀ cause ∈ store.caught, holds cause) (new : ∀ cause, entry.caught? = some cause → holds cause) :
    ∀ cause ∈ { store with transcript := store.transcript.push entry }.caught, holds cause := by
  intro cause member
  simp only [caught, Array.toList_push, List.filterMap_append, List.mem_append] at member
  rcases member with before | last
  · exact earlier cause before
  · simp only [List.mem_filterMap, List.mem_singleton] at last
    obtain ⟨_, rfl, found⟩ := last
    exact new cause found

end Store

/-- The failures that came up in a run: those that handlers received, and the one that ended it. -/
def Outcome.failures : Outcome α → List Failure
  | .stopped (.failure cause) store => store.caught ++ [cause]
  | outcome => outcome.store.caught

/-- What holds of the failures that handlers received, and of the one that ended the run, holds of all. -/
theorem Outcome.forall_failures {holds : Failure → Prop} {outcome : Outcome α}
    (caught : ∀ cause ∈ outcome.store.caught, holds cause)
    (last : ∀ cause store, outcome = .stopped (.failure cause) store → holds cause) :
    ∀ cause ∈ outcome.failures, holds cause := by
  intro cause member
  cases outcome with
  | done | unfinished => exact caught cause member
  | stopped reason store =>
    cases reason with
    | signal | fault => exact caught cause member
    | failure final =>
      rcases List.mem_append.mp member with before | here
      · exact caught cause before
      · rw [List.mem_singleton] at here
        exact here ▸ last final store rfl

namespace Exec

variable {next : α → Exec β} {host : Host}

theorem bind_of_done {step : Exec α} {store later : Store} {result : α}
    (ends : step host store = .done result later) : (step >>= next) host store = next result host later := by
  change andThen step next host store = _
  rw [andThen, ends]

theorem bind_of_stopped {step : Exec α} {store later : Store} {reason : Stop}
    (ends : step host store = .stopped reason later) :
    (step >>= next) host store = .stopped reason later := by
  change andThen step next host store = _
  rw [andThen, ends]

/-- A sequence of two steps ends as stated if the first one leads to a store from which the second
one does. -/
theorem meets_bind {ending : Ending β} {step : Exec α} {store : Store} :
    ((step >>= next) host store).Meets ending ↔
      (step host store).Meets
        ⟨fun result after => (next result host after).Meets ending, ending.stopped,
          ending.unfinished⟩ := by
  change (andThen step next host store).Meets ending ↔ _
  unfold andThen
  cases step host store <;> exact Iff.rfl

/-! ## Steps that go on after a stop

Sequences, calls, handlers, loops and functions all execute a step and go on according to how it
ended. -/

/-- Execute a step and go on according to how it ended. -/
def settle (step : Exec α) (onDone : α → Exec β) (onStop : Stop → Exec β) : Exec β :=
  fun host store =>
    match step host store with
    | .done result store => onDone result host store
    | .stopped reason store => onStop reason host store
    | .unfinished store => .unfinished store

theorem bind_assoc {γ : Type} (step : Exec α) (next : α → Exec β) (last : β → Exec γ) :
    step >>= next >>= last = step >>= fun result => next result >>= last := by
  funext host store
  change andThen (andThen step next) last host store = andThen step _ host store
  unfold andThen
  cases step host store <;> rfl

/-- A sequence of two steps ends with a result only if both do. -/
theorem bind_eq_done_iff {step : Exec α} {next : α → Exec β} {host : Host} {store final : Store} {result : β} :
    (step >>= next) host store = .done result final ↔
      ∃ value middle, step host store = .done value middle ∧ next value host middle = .done result final := by
  change andThen step next host store = _ ↔ _
  unfold andThen
  cases step host store with
  | done value middle => exact ⟨fun ends => ⟨value, middle, rfl, ends⟩, fun ⟨_, _, same, ends⟩ => by cases same; exact ends⟩
  | stopped | unfinished => simp

theorem bind_eq_settle (step : Exec α) (next : α → Exec β) : step >>= next = settle step next stop := rfl

theorem hosted_eq_settle (name : String) (step : Exec α) :
    hosted name step = settle step done fun reason =>
      match reason with
      | .fault cause => fail (.host name cause.message)
      | other => stop other := by
  funext host store
  unfold hosted settle
  cases step host store with
  | stopped reason after => cases reason <;> rfl
  | _ => rfl

theorem catching_eq_settle (step : Exec α) (handler : Failure → Exec α) :
    catching step handler = settle step done fun reason =>
      match reason with
      | .failure cause => handler cause
      | other => stop other := by
  funext host store
  unfold catching settle
  cases step host store with
  | stopped reason after => cases reason <;> rfl
  | _ => rfl

theorem absorbJumps_eq_settle (last : Value) (body : Exec Value) :
    absorbJumps last body = settle body (fun value => done (.again value)) fun reason =>
      match reason with
      | .signal .continued => done (.again last)
      | .signal .broken => done (.finished last)
      | other => stop other := by
  funext host store
  unfold absorbJumps settle
  cases body host store with
  | stopped reason after =>
    cases reason with
    | signal signal => cases signal <;> rfl
    | _ => rfl
  | _ => rfl

theorem absorbReturn_eq_settle (name : String) (body : Exec Value) :
    absorbReturn name body = settle body (fun _ => done .undefined) fun reason =>
      match reason with
      | .signal (.returned value) => done value
      | .signal signal => fail (.straySignal signal.keyword (.function name))
      | other => stop other := by
  funext host store
  unfold absorbReturn settle
  cases body host store with
  | stopped reason after =>
    cases reason with
    | signal signal => cases signal <;> rfl
    | _ => rfl
  | _ => rfl

theorem repeatRounds_succ (round : β → Exec (Round β)) (effort : Nat) (state : β) :
    repeatRounds round (effort + 1) state = (do
      match ← round state with
      | .again state => repeatRounds round effort state
      | .finished state => done state) := by
  funext host store
  change _ = andThen (round state) _ host store
  rw [repeatRounds, andThen]
  dsimp only
  cases round state host store with
  | done result after => cases result <;> rfl
  | stopped | unfinished => rfl

/-- A step that goes on ends as stated if the steps that it goes on with do. -/
theorem meets_settle {ending : Ending β} {step : Exec α} {onDone : α → Exec β} {onStop : Stop → Exec β}
    {store : Store} :
    (settle step onDone onStop host store).Meets ending ↔
      (step host store).Meets ⟨fun result after => (onDone result host after).Meets ending,
        fun reason after => (onStop reason host after).Meets ending, ending.unfinished⟩ := by
  unfold settle
  cases step host store <;> exact Iff.rfl

end Exec

/-! ## Conducts -/

/-- A rule that executions keep to. -/
structure Conduct where
  /-- What holds of every store. -/
  holds : Store → Prop
  /-- The frames in which names may be bound. -/
  writable : FrameRef → Prop
  /-- The functions that may be made. -/
  makes : Callable → Prop
  /-- The reasons for which a step may stop. -/
  allows : Stop → Prop

namespace Conduct

/-- The ending that a conduct asks for. -/
def ending (conduct : Conduct) : Ending α where
  done _ store := conduct.holds store
  stopped reason store := conduct.allows reason ∧ conduct.holds store
  unfinished store := conduct.holds store

/-- Working on values keeps a conduct's statement about the store: arrays and objects are added,
arrays are changed, text is printed, and the outside world is asked. -/
structure Sturdy (conduct : Conduct) : Prop where
  addArray : ∀ {store elements}, conduct.holds store → conduct.holds (store.addArray elements).2
  addObject : ∀ {store} {entries : Table Value}, conduct.holds store → entries.keys.Nodup →
    conduct.holds (store.addObject entries).2
  updateArray : ∀ {store ref change}, conduct.holds store →
    conduct.holds (store.updateArray ref change)
  fetchStarted : ∀ {store target timeout}, conduct.holds store →
    conduct.holds (store.record (.fetchStarted target timeout))
  fetchFailed : ∀ {store target reason}, conduct.holds store →
    conduct.holds (store.record (.fetchFailed target reason))
  write : ∀ {store text}, conduct.holds store → conduct.holds (store.write text)
  request : ∀ {store : Store}, conduct.holds store →
    conduct.holds { store with requests := store.requests + 1 }

/-- What is said of frames and functions alone is kept. -/
theorem Sturdy.of_frames_functions {conduct : Conduct} (blind : ∀ {store later : Store}, later.frames = store.frames →
    later.functions = store.functions → conduct.holds store → conduct.holds later) : conduct.Sturdy where
  addArray := blind rfl rfl
  addObject {store _} holds _ := blind (rfl : _ = store.frames) rfl holds
  updateArray := blind rfl rfl
  fetchStarted := blind rfl rfl
  fetchFailed := blind rfl rfl
  write := blind rfl rfl
  request := blind rfl rfl

/-- The changes that steps make to a store keep a conduct's statement about it. -/
structure Lawful (conduct : Conduct) : Prop extends Sturdy conduct where
  define : ∀ {store frame name value}, conduct.holds store → conduct.writable frame →
    conduct.holds (store.define frame name value)
  addFrame : ∀ {store parent label}, conduct.holds store →
    conduct.holds (store.addFrame parent label).2
  /-- A new frame may be written. -/
  fresh : ∀ {store}, conduct.holds store → conduct.writable store.frames.size
  addFunction : ∀ {store function}, conduct.holds store → conduct.makes function →
    conduct.holds (store.addFunction function).2
  /-- The functions in the store are such as may be made. -/
  made : ∀ {store : Store} {ref : FunctionRef} {function}, conduct.holds store →
    store.functions[ref]? = some function → conduct.makes function
  remember : ∀ {store ref key result}, conduct.holds store →
    conduct.holds (store.remember ref key result)
  caught : ∀ {store cause}, conduct.holds store → conduct.allows (.failure cause) →
    conduct.holds (store.record (.caught cause))
  memoHit : ∀ {store hit}, conduct.holds store → conduct.holds (store.record (.memoHit hit))

end Conduct

/-- Every run of a step from a store within the conduct stays within it. -/
structure Exec.Follows (conduct : Conduct) (step : Exec α) : Prop where
  meets : ∀ host store, conduct.holds store → (step host store).Meets conduct.ending

namespace Exec

variable {conduct : Conduct} {step : Exec α}

/-- Whichever way a step ends, it leaves a store within the conduct. -/
theorem Follows.holds_store (follows : step.Follows conduct) (host : Host) {store : Store}
    (holds : conduct.holds store) : conduct.holds (step host store).store := by
  have ends := follows.meets host store holds
  cases outcome : step host store with
  | done result after => rw [outcome] at ends; exact ends
  | stopped reason after => rw [outcome] at ends; exact ends.2
  | unfinished after => rw [outcome] at ends; exact ends

/-- What goes on after a step may follow a conduct of its own, which knows the same of the store. -/
theorem Follows.settle {inner : Conduct} {onDone : α → Exec β} {onStop : Stop → Exec β}
    (follows : step.Follows inner) (enter : ∀ {store}, conduct.holds store → inner.holds store)
    (leave : ∀ {store}, inner.holds store → conduct.holds store)
    (results : ∀ result, (onDone result).Follows conduct)
    (stops : ∀ reason, inner.allows reason → (onStop reason).Follows conduct) :
    (settle step onDone onStop).Follows conduct := by
  refine ⟨fun host store holds => ?_⟩
  rw [meets_settle]
  exact (follows.meets host store (enter holds)).mono
    (fun result after kept => (results result).meets host after (leave kept))
    (fun reason after kept => (stops reason kept.1).meets host after (leave kept.2)) fun _ => leave

theorem follows_pure (result : α) : (pure result : Exec α).Follows conduct :=
  ⟨fun _ _ holds => holds⟩

theorem follows_done (result : α) : (done result).Follows conduct := ⟨fun _ _ holds => holds⟩

theorem follows_unfinished : (unfinished : Exec α).Follows conduct := ⟨fun _ _ holds => holds⟩

theorem follows_stop {reason : Stop} (allowed : conduct.allows reason) :
    (stop reason : Exec α).Follows conduct := ⟨fun _ _ holds => ⟨allowed, holds⟩⟩

theorem Follows.bind {next : α → Exec β} (first : step.Follows conduct)
    (rest : ∀ result, (next result).Follows conduct) : (step >>= next).Follows conduct :=
  first.settle id id rest fun _ => follows_stop

theorem follows_fail {cause : Failure} (allowed : conduct.allows (.failure cause)) :
    (fail cause : Exec α).Follows conduct := follows_stop allowed

theorem follows_jump {signal : Signal} (allowed : conduct.allows (.signal signal)) :
    (jump signal : Exec α).Follows conduct := follows_stop allowed

theorem follows_crash {cause : Fault} (allowed : conduct.allows (.fault cause)) :
    (crash cause : Exec α).Follows conduct := follows_stop allowed

theorem follows_host : Exec.host.Follows conduct := ⟨fun _ _ holds => holds⟩

theorem follows_read (view : Store → α) : (read view).Follows conduct := ⟨fun _ _ holds => holds⟩

theorem follows_read? (view : Store → Option α) : (read? view).Follows conduct := by
  refine ⟨fun host store holds => ?_⟩
  unfold read?
  cases view store <;> exact holds

theorem follows_change {update : Store → Store}
    (keeps : ∀ store, conduct.holds store → conduct.holds (update store)) :
    (change update).Follows conduct := ⟨fun _ store holds => keeps store holds⟩

theorem follows_create {add : Store → α × Store}
    (keeps : ∀ store, conduct.holds store → conduct.holds (add store).2) :
    (create add).Follows conduct := ⟨fun _ store holds => keeps store holds⟩

theorem follows_ofArithmetic {answer : Except ArithmeticFault α}
    (allowed : ∀ fault, conduct.allows (.fault (.arithmetic fault))) :
    (ofArithmetic answer).Follows conduct := by
  cases answer with
  | ok result => exact follows_done result
  | error fault => exact follows_crash (allowed fault)

theorem follows_lookup {frame : FrameRef} {name : String}
    (allowed : conduct.allows (.failure (.unboundVariable name))) :
    (lookup frame name).Follows conduct := by
  refine ⟨fun host store holds => ?_⟩
  unfold lookup
  cases store.lookup? frame name with
  | some value => exact holds
  | none => exact ⟨allowed, holds⟩

theorem follows_define (lawful : conduct.Lawful) {frame : FrameRef} {name : String} {value : Value}
    (writable : conduct.writable frame) : (define frame name value).Follows conduct :=
  follows_change fun _ holds => lawful.define holds writable

/-- What is done in a new frame may write that frame. -/
theorem Follows.child (lawful : conduct.Lawful) {parent : FrameRef} {label : String}
    {next : FrameRef → Exec α}
    (rest : ∀ scope, conduct.writable scope → (next scope).Follows conduct) :
    (child parent label >>= next).Follows conduct := by
  refine ⟨fun host store holds => ?_⟩
  rw [meets_bind]
  exact (rest store.frames.size (lawful.fresh holds)).meets host _ (lawful.addFrame holds)

theorem follows_newArray (sturdy : conduct.Sturdy) (elements : Array Value) :
    (newArray elements).Follows conduct :=
  (follows_create fun _ => sturdy.addArray).bind fun _ => follows_pure _

theorem follows_newObject (sturdy : conduct.Sturdy) {entries : Table Value}
    (distinct : entries.keys.Nodup) : (newObject entries).Follows conduct :=
  (follows_create fun _ holds => sturdy.addObject holds distinct).bind fun _ => follows_pure _

theorem follows_newFunction (lawful : conduct.Lawful) {function : Callable}
    (makes : conduct.makes function) : (newFunction function).Follows conduct :=
  (follows_create fun _ holds => lawful.addFunction holds makes).bind fun _ => follows_pure _

theorem follows_spell {view : Host → Store → Option α} {integers : Store → List Int}
    (long : ∀ {limit counted}, conduct.allows (.fault (.invalidInteger (.tooLong limit counted)))) :
    (spell view integers).Follows conduct := by
  refine ⟨fun host store holds => ?_⟩
  unfold spell
  split
  · split
    · exact holds
    · exact ⟨long, holds⟩
  · exact holds

theorem follows_ensureReadable {digits : Nat}
    (long : ∀ {limit counted}, conduct.allows (.fault (.invalidInteger (.tooLong limit counted)))) :
    (ensureReadable digits).Follows conduct := by
  refine ⟨fun host store holds => ?_⟩
  unfold ensureReadable
  split
  · exact holds
  · exact ⟨long, holds⟩

theorem follows_typeOf (value : Value) : (typeOf value).Follows conduct := follows_read? _

theorem follows_each {step : α → Exec β} {items : List α}
    (steps : ∀ item ∈ items, (step item).Follows conduct) : (each step items).Follows conduct := by
  induction items with
  | nil => exact follows_done _
  | cons item rest ih =>
    refine (steps item (List.mem_cons_self ..)).bind fun _ => ?_
    refine Follows.bind (ih fun other member => steps other (List.mem_cons_of_mem _ member)) ?_
    exact fun _ => follows_pure _

/-- A call turns faults into failures, which the conduct has to allow. -/
theorem Follows.hosted {name : String} (follows : step.Follows conduct)
    (allowed : ∀ message, conduct.allows (.failure (.host name message))) :
    (hosted name step).Follows conduct := by
  rw [hosted_eq_settle]
  refine follows.settle id id follows_done fun reason may => ?_
  cases reason with
  | fault cause => exact follows_fail (allowed _)
  | _ => exact follows_stop may

theorem Follows.catching {handler : Failure → Exec α} (follows : step.Follows conduct)
    (handles : ∀ cause, conduct.allows (.failure cause) → (handler cause).Follows conduct) :
    (catching step handler).Follows conduct := by
  rw [catching_eq_settle]
  refine follows.settle id id follows_done fun reason may => ?_
  cases reason with
  | failure cause => exact handles cause may
  | _ => exact follows_stop may

theorem follows_repeatRounds {round : β → Exec (Round β)}
    (rounds : ∀ state, (round state).Follows conduct) (effort : Nat) (state : β) :
    (repeatRounds round effort state).Follows conduct := by
  induction effort generalizing state with
  | zero => exact follows_unfinished
  | succ effort ih =>
    rw [repeatRounds_succ]
    refine (rounds state).bind fun result => ?_
    cases result with
    | again next => exact ih next
    | finished last => exact follows_done last

end Exec

end TreeScript
