import Mathlib.Logic.Relation
import TreeScript.Proofs.Conduct.Functions
import TreeScript.Proofs.Runs.Interruption
import TreeScript.Proofs.Scope.Wrapping

/-! # Every frame leads to the root

A frame is made in one that is there, and the functions in the store were made in frames that are there. So
whoever goes from a frame to the one it was made in, and so on, comes to ever older frames and in the end to
the root frame of the run. The searches that go this way end, and what the root frame offers is within reach
of every frame that has no other use for its name.
-/

namespace TreeScript

open Exec

variable {α β : Type}

namespace Store

/-! ## Going up -/

/-- The frame that a frame was made in. -/
def parent? (store : Store) (frame : FrameRef) : Option FrameRef :=
  store.frames[frame]?.bind (·.enclosing.head?)

/-- Going from frame to parent, one comes from the first frame to the second. -/
def Within (store : Store) : FrameRef → FrameRef → Prop :=
  Relation.ReflTransGen fun frame parent => store.parent? frame = some parent

/-- How the search for a name ends that goes from frame to parent until one of them binds it. -/
inductive Finds (store : Store) (name : String) : FrameRef → Option Value → Prop
  | here {frame : FrameRef} {value : Value} : store.binding? frame name = some value →
      Finds store name frame (some value)
  | above {frame parent : FrameRef} {result : Option Value} : store.binding? frame name = none →
      store.parent? frame = some parent → Finds store name parent result → Finds store name frame result
  | nowhere {frame : FrameRef} : store.binding? frame name = none → store.parent? frame = none →
      Finds store name frame none

/-- A frame has another use for the name of a built-in function. -/
def Rebinds (store : Store) (frame : FrameRef) (function : Builtin) : Prop :=
  ∃ value, store.binding? frame function.name = some value ∧ value ≠ .function (builtinRef function)

/-- All frames but the root have an older parent, functions were made in frames that are there, and the
built-in functions are in their cells. -/
structure IsRooted (store : Store) : Prop where
  root : store.visible root = [root]
  inner : ∀ {frame}, frame < store.frames.size → frame ≠ Store.root →
    ∃ parent < frame, store.visible frame = frame :: store.visible parent
  scopes : store.EachFunction fun function => ∀ scope ∈ function.scope?, scope < store.frames.size
  /-- The root frame never loses a name. -/
  bound : ∀ function : Builtin, (store.binding? Store.root function.name).isSome
  builtins : ∀ function, store.functions[builtinRef function]? = some (.builtin function)

variable {store : Store}

theorem initial_isRooted : initial.IsRooted where
  root := rfl
  inner inside other := absurd (Nat.lt_one_iff.mp inside) other
  scopes := initial_eachFunction fun _ => nofun
  bound function := by cases function <;> decide
  builtins function := by cases function <;> rfl

namespace IsRooted

variable (rooted : store.IsRooted)

include rooted

/-! ## Changes of the store -/

theorem congr {later : Store} (frames : later.frames = store.frames) (functions : later.functions = store.functions) :
    later.IsRooted := by
  cases store
  cases later
  cases frames
  cases functions
  exact ⟨rooted.root, rooted.inner, rooted.scopes, rooted.bound, rooted.builtins⟩

theorem define (frame : FrameRef) (name : String) (value : Value) : (store.define frame name value).IsRooted where
  root := (visible_define ..).trans rooted.root
  inner {other} inside notRoot := by
    simp only [visible_define]
    exact rooted.inner (by simpa [Store.define] using inside) notRoot
  scopes := by simpa [Store.define, EachFunction] using rooted.scopes
  bound function := by
    rw [binding?_define]
    split
    · rfl
    · exact rooted.bound function
  builtins := rooted.builtins

theorem addFrame {parent : FrameRef} (inside : parent < store.frames.size) (label : String) :
    (store.addFrame parent label).2.IsRooted where
  root := by
    have first : Store.root ≠ store.frames.size := (Nat.zero_lt_of_lt inside).ne
    rw [visible_addFrame, if_neg first, rooted.root]
  inner {frame} within notRoot := by
    have size : frame < store.frames.size + 1 := by simpa [Store.addFrame] using within
    simp only [visible_addFrame]
    split
    · next new => exact ⟨parent, new ▸ inside, by rw [if_neg inside.ne]⟩
    · next old =>
      have before := Nat.lt_of_le_of_ne (Nat.le_of_lt_succ size) old
      obtain ⟨outer, older, sees⟩ := rooted.inner before notRoot
      exact ⟨outer, older, by rw [if_neg (older.trans before).ne, sees]⟩
  scopes ref function found scope captured := by
    rw [Store.addFrame, Array.size_push]
    exact Nat.lt_succ_of_lt (rooted.scopes ref function found scope captured)
  bound function := by
    rw [binding?_addFrame]
    exact rooted.bound function
  builtins := rooted.builtins

theorem addFunction {callable : Callable} (captured : ∀ scope ∈ callable.scope?, scope < store.frames.size) :
    (store.addFunction callable).2.IsRooted where
  root := rooted.root
  inner := rooted.inner
  scopes := rooted.scopes.addFunction captured
  bound := rooted.bound
  builtins function := by
    have found := rooted.builtins function
    have inside := (Array.getElem?_eq_some_iff.mp found).1
    rw [Store.addFunction, Array.getElem?_push, if_neg inside.ne, found]

theorem remember (ref : FunctionRef) (key : String) (result : Value) : (store.remember ref key result).IsRooted where
  root := rooted.root
  inner := rooted.inner
  scopes := rooted.scopes.remember (fun _ kept => kept) ref key result
  bound := rooted.bound
  builtins function := by
    simp only [Store.remember, Array.getElem?_modify, rooted.builtins function]
    split <;> rfl

/-! ## The way to the root -/

theorem root_lt : Store.root < store.frames.size := by
  by_contra outside
  have missing := Array.getElem?_eq_none (Nat.le_of_not_lt outside)
  simpa [binding?, missing] using rooted.bound .print

theorem parent?_root : store.parent? Store.root = none := by
  have sees := rooted.root
  unfold visible at sees
  unfold parent?
  cases found : store.frames[Store.root]? with
  | none => rfl
  | some frame =>
    rw [found] at sees
    simp [(List.cons.inj sees).2]

theorem exists_parent? {frame : FrameRef} (inside : frame < store.frames.size) (notRoot : frame ≠ Store.root) :
    ∃ parent < frame, store.parent? frame = some parent ∧ store.visible frame = frame :: store.visible parent := by
  obtain ⟨parent, older, sees⟩ := rooted.inner inside notRoot
  refine ⟨parent, older, ?_, sees⟩
  have found : store.frames[frame]? = some store.frames[frame] := Array.getElem?_eq_getElem inside
  have outer := Array.getElem?_eq_getElem (older.trans inside)
  simp only [visible, found, outer, List.cons.injEq, true_and] at sees
  simp [parent?, found, sees]

/-- What holds of the root frame, and of a frame if of its parent, holds of all frames. -/
theorem induct {motive : FrameRef → Prop} (atRoot : motive Store.root)
    (above : ∀ frame parent, store.parent? frame = some parent →
      store.visible frame = frame :: store.visible parent → motive parent → motive frame)
    (frame : FrameRef) (inside : frame < store.frames.size) : motive frame := by
  induction frame using Nat.strongRecOn with
  | ind frame ih =>
    by_cases first : frame = Store.root
    · exact first ▸ atRoot
    · obtain ⟨parent, older, parents, sees⟩ := rooted.exists_parent? inside first
      exact above frame parent parents sees (ih parent older (older.trans inside))

theorem within_root {frame : FrameRef} (inside : frame < store.frames.size) : store.Within frame Store.root :=
  rooted.induct (motive := fun frame => store.Within frame Store.root) .refl (fun _ _ parents _ ih => .head parents ih)
    frame inside

/-- The way up ends in the root frame and nowhere else. -/
theorem ends_iff {frame : FrameRef} (inside : frame < store.frames.size) (top : FrameRef) :
    store.Within frame top ∧ store.parent? top = none ↔ top = Store.root := by
  have stays {frame other : FrameRef} (last : store.parent? frame = none) (within : store.Within frame other) :
      frame = other := by
    rcases within.cases_head with same | ⟨parent, parents, -⟩
    · exact same
    · cases last.symm.trans parents
  constructor
  · rintro ⟨within, last⟩
    have unique : Relator.RightUnique fun frame parent => store.parent? frame = some parent :=
      fun _ _ _ first second => Option.some.inj (first.symm.trans second)
    rcases within.total_of_right_unique unique (rooted.within_root inside) with down | up
    · exact stays last down
    · exact (stays rooted.parent?_root up).symm
  · rintro rfl
    exact ⟨rooted.within_root inside, rooted.parent?_root⟩

omit rooted in
theorem lookup?_above {frame parent : FrameRef} (sees : store.visible frame = frame :: store.visible parent)
    (name : String) : store.lookup? frame name = (store.binding? frame name).or (store.lookup? parent name) := by
  rw [lookup?, sees, List.findSome?_cons, lookup?]
  cases store.binding? frame name <;> rfl

theorem lookup?_root (name : String) : store.lookup? Store.root name = store.binding? Store.root name := by
  rw [lookup?, rooted.root]
  cases found : store.binding? Store.root name <;> simp [found]

/-- The search from a frame ends, with what is seen from the frame. -/
theorem finds {frame : FrameRef} (inside : frame < store.frames.size) (name : String) :
    store.Finds name frame (store.lookup? frame name) := by
  refine rooted.induct (motive := fun frame => store.Finds name frame (store.lookup? frame name)) ?_ ?_ frame inside
  · rw [rooted.lookup?_root]
    cases bound : store.binding? Store.root name with
    | some value => exact .here bound
    | none => exact .nowhere bound rooted.parent?_root
  · intro frame parent parents sees ih
    rw [lookup?_above sees]
    cases bound : store.binding? frame name with
    | some value => exact .here bound
    | none => exact .above bound parents ih

/-- From every frame a built-in function is seen, unless a frame on the way has another use for its name. -/
theorem sees_builtin {frame : FrameRef} (inside : frame < store.frames.size) (function : Builtin)
    (unused : ∀ scope, store.Within frame scope → ¬store.Rebinds scope function) :
    store.lookup? frame function.name = some (.function (builtinRef function)) := by
  have original {scope : FrameRef} {value : Value} (unused : ¬store.Rebinds scope function)
      (bound : store.binding? scope function.name = some value) : value = .function (builtinRef function) := by
    by_contra other
    exact unused ⟨value, bound, other⟩
  refine rooted.induct (motive := fun frame => (∀ scope, store.Within frame scope → ¬store.Rebinds scope function) →
    store.lookup? frame function.name = some (.function (builtinRef function))) ?_ ?_ frame inside unused
  · intro unused
    obtain ⟨value, bound⟩ := Option.isSome_iff_exists.mp (rooted.bound function)
    rw [rooted.lookup?_root, bound, original (unused _ .refl) bound]
  · intro frame parent parents sees ih unused
    rw [lookup?_above sees, ih fun scope within => unused scope (.head parents within)]
    cases bound : store.binding? frame function.name with
    | none => rfl
    | some value => rw [original (unused _ .refl) bound, Option.some_or]

end IsRooted

end Store

/-! ## What a run keeps -/

/-- What holds while the first frames of the store, as many as `known`, are there. -/
def Conduct.rooted (known : Nat) : Conduct where
  holds store := store.IsRooted ∧ known ≤ store.frames.size
  writable frame := frame < known
  makes function := ∀ scope ∈ function.scope?, scope < known
  allows _ := True

theorem Conduct.rooted_sturdy (known : Nat) : (rooted known).Sturdy :=
  .of_frames_functions fun frames functions holds => ⟨holds.1.congr frames functions, frames ▸ holds.2⟩

theorem Conduct.rooted_permissive (known : Nat) : (rooted known).Permissive := ⟨fun _ => trivial, trivial⟩

/-- Where more frames are known, so are fewer. -/
theorem Conduct.rooted_of_le {known more : Nat} (fewer : known ≤ more) {outcome : Outcome α}
    (meets : outcome.Meets (rooted more).ending) : outcome.Meets (rooted known).ending :=
  meets.mono (fun _ _ holds => ⟨holds.1, fewer.trans holds.2⟩)
    (fun _ _ stops => ⟨trivial, stops.2.1, fewer.trans stops.2.2⟩) fun _ holds => ⟨holds.1, fewer.trans holds.2⟩

theorem Exec.follows_record_rooted (known : Nat) (event : Event) : (record event).Follows (.rooted known) :=
  follows_change fun _ holds => ⟨holds.1.congr rfl rfl, holds.2⟩

/-- A step keeps the store rooted, and it does not matter which of two ways it is interrupted in. -/
structure Exec.Stays (halts picks : RunMoment → Bool) (known : Nat) (step : (RunMoment → Bool) → Exec α) :
    Prop where
  follows : (step halts).Follows (.rooted known)
  same : ∀ host store, (Conduct.rooted known).holds store → step picks host store = step halts host store

/-- To keep the store rooted. -/
def Habit.rooted (halts picks : RunMoment → Bool) (known : Nat) : Habit (RunMoment → Bool) where
  Keeps := Exec.Stays halts picks known
  writable := (Conduct.rooted known).writable
  makes := (Conduct.rooted known).makes
  knows frame := frame < known

section Run

variable {halts picks : RunMoment → Bool} {known : Nat}

theorem Exec.Follows.stays {step : Exec α} (follows : step.Follows (.rooted known)) :
    Stays halts picks known fun _ => step := ⟨follows, fun _ _ _ => rfl⟩

theorem Exec.Stays.settle {step : (RunMoment → Bool) → Exec α} {onDone : (RunMoment → Bool) → α → Exec β}
    {onStop : (RunMoment → Bool) → Stop → Exec β} (stays : Stays halts picks known step)
    (results : ∀ result, Stays halts picks known fun i => onDone i result)
    (stops : ∀ reason, Stays halts picks known fun i => onStop i reason) :
    Stays halts picks known fun i => Exec.settle (step i) (onDone i) (onStop i) where
  follows := stays.follows.settle id id (fun result => (results result).follows) fun reason _ => (stops reason).follows
  same host store holds := by
    have ends := stays.follows.meets host store holds
    unfold Exec.settle
    rw [stays.same host store holds]
    cases outcome : step halts host store with
    | done result after =>
      rw [outcome] at ends
      exact (results result).same host after ends
    | stopped reason after =>
      rw [outcome] at ends
      exact (stops reason).same host after ends.2
    | unfinished after => rfl

theorem Habit.rooted_settling : (Habit.rooted halts picks known).Settling where
  done result := (follows_done result).stays
  fail _ := (follows_fail trivial).stays
  settle stays results stops := Exec.Stays.settle stays results fun reason => by
    rcases stops reason with same | keeps
    · simp only [same]
      exact (follows_stop trivial).stays
    · exact keeps

theorem Habit.rooted_lawful : Habit.Lawful (Habit.rooted halts picks) where
  sturdy known :=
    have settling : (Habit.rooted halts picks known).Settling := Habit.rooted_settling
    have sequential : (Habit.rooted halts picks known).Sequential :=
      ⟨settling.done, follows_unfinished.stays, fun _ => settling.fail _, settling.bind⟩
    sequential.sturdy (fun _ : Unit => Conduct.rooted_sturdy known)
      (fun _ => (Conduct.rooted_permissive known).tolerant.operating) fun follows => (follows ()).stays
  known := id
  child {known _ parent label next} inside rest := by
    -- The new frame is known from here on, and so are those that were.
    have within (store : Store) (holds : (Conduct.rooted known).holds store) :
        (Conduct.rooted (store.frames.size + 1)).holds (store.addFrame parent label).2 :=
      ⟨holds.1.addFrame (inside.trans_le holds.2) label, by simp [Store.addFrame]⟩
    refine ⟨⟨fun host store holds => ?_⟩, fun host store holds => ?_⟩
    all_goals have stays := rest (store.frames.size + 1) store.frames.size (Nat.lt_succ_self _)
    · rw [meets_bind]
      exact Conduct.rooted_of_le (Nat.le_succ_of_le holds.2) (stays.follows.meets host _ (within store holds))
    · exact stays.same host _ (within store holds)
  define {known frame name value} _ := Exec.Follows.stays <| follows_change fun store holds =>
    ⟨holds.1.define frame name value, by simpa [Store.define] using holds.2⟩
  lookup := (follows_lookup trivial).stays
  catching step next := Habit.rooted_settling.catching step fun cause =>
    Habit.rooted_settling.bind (follows_record_rooted _ _).stays fun _ => next cause
  memoHit := (follows_record_rooted _ _).stays
  remember := Exec.Follows.stays <| follows_change fun _ holds => ⟨holds.1.remember _ _ _, holds.2⟩
  callee {known ref next} missing found := by
    have calls (host : Host) (store : Store) (holds : (Conduct.rooted known).holds store) :
        (next halts store.functions[ref]? host store).Meets (Conduct.rooted known).ending ∧
          next picks store.functions[ref]? host store = next halts store.functions[ref]? host store := by
      cases cell : store.functions[ref]? with
      | none => exact ⟨missing.follows.meets host store holds, missing.same host store holds⟩
      | some function =>
        have stays := found store.frames.size function (holds.1.scopes ref function cell)
        exact ⟨Conduct.rooted_of_le holds.2 (stays.follows.meets host store ⟨holds.1, le_rfl⟩),
          stays.same host store ⟨holds.1, le_rfl⟩⟩
    exact ⟨⟨fun host store holds => (calls host store holds).1⟩, fun host store holds => (calls host store holds).2⟩
  scope made captured := made _ captured

theorem Habit.rooted_hosts : (Habit.rooted halts picks known).Hosts (Habit.rooted halts picks known) where
  sturdy := Habit.rooted_lawful.sturdy known
  hosted step := by
    simp only [hosted_eq_settle]
    refine Habit.rooted_settling.settle step Habit.rooted_settling.done fun reason => .inr ?_
    cases reason <;> exact (follows_stop trivial).stays

theorem Habit.rooted_makesFrom {frame : FrameRef} (inside : frame < known) (node : Node) :
    (Habit.rooted halts picks known).MakesFrom frame node := by
  have made {function : Callable} (captured : ∀ scope ∈ function.scope?, scope < known) :
      (newFunction function).Follows (.rooted known) := by
    refine Exec.Follows.bind (follows_create fun store holds => ?_) fun _ => follows_pure _
    exact ⟨holds.1.addFunction fun scope member => (captured scope member).trans_le holds.2, holds.2⟩
  refine fun make closure => Exec.Follows.stays (follows_closureOf? closure fun function makes => made ?_)
  cases makes <;> simpa [Callable.scope?] using inside

/-- The two runs are interrupted alike at every moment in a frame that is there. -/
def SameInside (halts picks : RunMoment → Bool) : Prop :=
  ∀ moment, moment.frame < moment.store.frames.size → picks moment = halts moment

/-- A run executes nodes only in frames that are there. -/
theorem interrupted_stays (inside : SameInside halts picks) (effort : Nat) :
    (∀ node, Habit.Runs (Habit.rooted halts picks) (interrupted · effort) node) ∧
    ∀ known ref args, (Habit.rooted halts picks known).Keeps fun i => (interrupted i effort).call ref args := by
  induction effort with
  | zero =>
    exact ⟨fun _ _ _ _ => follows_unfinished.stays, fun _ _ _ => follows_unfinished.stays⟩
  | succ effort ih =>
    obtain ⟨exec, call⟩ := ih
    have lawful : Habit.Lawful (Habit.rooted halts picks) := Habit.rooted_lawful
    refine ⟨fun node known frame may => ?_, lawful.callFunction _ (fun _ => Habit.rooted_settling.inCall)
      (fun known => (lawful.sturdy known).toSequential) (fun _ _ _ node _ => exec node) (fun _ _ _ => id)
      (fun _ _ body _ _ => exec body) fun known function args => ?_⟩
    · have whole : (Habit.rooted halts picks known).Keeps fun i => (interrupted i effort).execNode effort node frame :=
        Habit.execNode _ (fun _ => Habit.rooted halts picks) .ofFunction known (fun _ => lawful)
        (fun _ => Habit.rooted_settling.inLoop) may (.inl may)
        (fun _ _ => (follows_jump trivial).stays)
        (fun _ target key => (follows_readProperty (Conduct.rooted_permissive known).numeric target key).stays)
        (fun part _ => Habit.rooted_makesFrom may part.2) (fun part _ => exec part.2) Habit.rooted_hosts
        (call known) effort
      refine ⟨⟨fun host store holds => ?_⟩, fun host store holds => ?_⟩
      · rw [interrupted_exec_eq]
        split
        · exact holds
        · exact whole.follows.meets host store holds
      · rw [interrupted_exec_eq, interrupted_exec_eq, inside ⟨node, frame, store⟩ (may.trans_le holds.2), whole.same host store holds]
    · exact (Builtin.follows_call (Conduct.rooted_sturdy known) (Conduct.rooted_permissive known).tolerant
        function args).stays

theorem runNodes_stays (inside : SameInside halts picks) (effort : Nat) (nodes : List Node) :
    Stays halts picks 1 fun i => (interrupted i effort).runNodes 0 nodes :=
  Habit.rooted_settling.runNodes (fun event => (follows_record_rooted 1 event).stays)
    (fun node => (interrupted_stays inside effort).1 node 1 Store.root Nat.one_pos) 0 nodes

theorem Store.isRooted_start (nodes : List Node) :
    (Conduct.rooted 1).holds (Store.initial.record (.started nodes.length)) :=
  ⟨Store.initial_isRooted.congr rfl rfl, Nat.le_refl 1⟩

/-- The states of a run are rooted. -/
theorem runUntil_isRooted (halts : RunMoment → Bool) (host : Host) (effort : Nat) (nodes : List Node) :
    (runUntil halts host effort nodes).store.IsRooted :=
  have stays := runNodes_stays (fun _ _ => rfl : SameInside halts halts) effort nodes
  (stays.follows.holds_store host (Store.isRooted_start nodes)).1

/-! ## Calls from anywhere -/

theorem Evaluator.each_literals (effort : Nat) (frame : FrameRef) (args : List Literal) (host : Host) (store : Store) :
    Exec.each ((evaluator (effort + 1)).argument frame) (args.map .literal) host store =
      .done (args.map (·.toValue)) store := by
  induction args with
  | nil => rfl
  | cons arg rest ih =>
    have first : (evaluator (effort + 1)).argument frame (.literal arg) host store = .done arg.toValue store := rfl
    exact (bind_of_done first).trans (bind_of_done ih)

theorem Builtin.exec_call (function : Builtin) (effort : Nat) (args : List Literal) (frame : FrameRef) (host : Host)
    {store : Store} (rooted : store.IsRooted)
    (seen : store.lookup? frame function.name = some (.function (Store.builtinRef function))) :
    (Node.call function.name (args.map .literal)).exec (effort + 2) frame host store =
      hosted function.name (function.call (args.map (·.toValue))) host store := by
  have found : Exec.lookup frame function.name host store = .done (.function (Store.builtinRef function)) store := by
    rw [Exec.lookup, seen]
  have called (values : List Value) : (evaluator (effort + 1)).call (Store.builtinRef function) values host store =
      function.call values host store := Evaluator.callFunction_eq (rooted.builtins function)
  change (evaluator (effort + 1)).callNamed frame function.name _ host store = _
  refine (bind_of_done found).trans ((bind_of_done (Evaluator.each_literals effort frame args host store)).trans ?_)
  rw [hosted, hosted, called]

end Run

/-- In every state of a run, the frames form a tree under the root frame, each made after the one that it is
in. Nodes are executed in these frames only, so that interrupting the run in others makes no difference, and
functions remember no others. From each of them the search for a name ends, and a call of a built-in function
does the same from all of them, on the settings and the transcript of the run, unless a frame on the way to the
root has another use for its name. Whether functions remember their results is decided by the settings of the
run wherever they are made. -/
theorem frames_lead_to_root (halts : RunMoment → Bool) (host : Host) (effort : Nat) (nodes : List Node) :
    let state := (runUntil halts host effort nodes).store
    (∀ picks, SameInside halts picks → runUntil picks host effort nodes = runUntil halts host effort nodes) ∧
    (∀ (ref : FunctionRef) function, state.functions[ref]? = some function →
      ∀ scope ∈ function.scope?, scope < state.frames.size) ∧
    Store.root < state.frames.size ∧ state.parent? Store.root = none ∧
    ∀ frame < state.frames.size,
      (frame ≠ Store.root → ∃ parent < frame, state.parent? frame = some parent) ∧
      (∀ top, state.Within frame top ∧ state.parent? top = none ↔ top = Store.root) ∧
      (∀ name, state.Finds name frame (state.lookup? frame name)) ∧
      (∀ function : Builtin, (∃ scope, state.Within frame scope ∧ state.Rebinds scope function) ∨
        state.lookup? frame function.name = some (.function (Store.builtinRef function)) ∧
        ∀ further (args : List Literal),
          (Node.call function.name (args.map .literal)).exec (further + 2) frame host state =
            hosted function.name (function.call (args.map (·.toValue))) host state) ∧
      ∀ name params body types result isPure, ∃ make,
        closureOf? frame (.function name params body types result isPure) = some make ∧
        let closure : Closure := ⟨functionName name, params, body, frame⟩
        make host state = .done (.function state.functions.size)
          (state.addFunction (if isPure && host.memoizes then .memoized closure [] else .closure closure)).2 := by
  intro state
  have rooted : state.IsRooted := runUntil_isRooted halts host effort nodes
  refine ⟨fun picks inside => (runNodes_stays inside effort nodes).same host _ (Store.isRooted_start nodes),
    rooted.scopes, rooted.root_lt, rooted.parent?_root, fun frame inside => ⟨fun notRoot => ?_, rooted.ends_iff inside,
    rooted.finds inside, fun function => ?_, fun _ _ _ _ _ _ => ⟨_, rfl, rfl⟩⟩⟩
  · obtain ⟨parent, older, parents, -⟩ := rooted.exists_parent? inside notRoot
    exact ⟨parent, older, parents⟩
  · by_cases used : ∃ scope, state.Within frame scope ∧ state.Rebinds scope function
    · exact .inl used
    · have seen := rooted.sees_builtin inside function fun scope within rebinds => used ⟨scope, within, rebinds⟩
      exact .inr ⟨seen, fun further args => function.exec_call further args frame host rooted seen⟩

/-- A function made in a round of a loop, and called from an array after the loop, is executed in a frame whose
parent is that of its round. -/
theorem arrow_of_round_leads_to_root :
    let program : List Node := [
      .declare "array" "made" (.array []),
      .forEach "item" (.array [.literal (.number (.int 1)), .literal (.number (.int 2))])
        [.method (.reference "made") "push" [.arrow [] (.reference "item")]],
      .method (.reference "made") "map" [.arrow ["f"] (.call "f" [])]]
    let halts (moment : RunMoment) : Bool := moment.node.kindName == "VariableReference" && moment.frame == 6
    let state := (runUntil halts default 9 program).store
    6 < state.frames.size ∧ state.parent? 6 = some 2 ∧ state.parent? 2 = some Store.root ∧
      (∀ top, state.Within 6 top ∧ state.parent? top = none ↔ top = Store.root) ∧
      state.Finds "item" 6 (some (.number (.int 2))) := by
  intro program halts state
  obtain ⟨-, -, -, -, leads⟩ := frames_lead_to_root halts default 9 program
  have inside : 6 < state.frames.size := by decide +kernel
  have seen : state.lookup? 6 "item" = some (.number (.int 2)) := by decide +kernel
  obtain ⟨-, ends, finds, -⟩ := leads 6 inside
  exact ⟨inside, by decide +kernel, by decide +kernel, ends, seen ▸ finds "item"⟩

end TreeScript
