import TreeScript.Proofs.Mirror.Programs

/-! # A program inside a block

Executing a program and executing one block with the same statements is the same to see. The block has a
frame of its own inside the root frame, so every frame of the first run stands one number further down in
the second, with one more frame around it. The root frame of the second run keeps the built-in functions
that it started with, and the frame of the block holds what the first run binds in its root frame: a name
that is bound in neither way is looked up in the root frame in both.
-/

namespace TreeScript

open Exec

/-! ## Frames -/

namespace Store

theorem binding?_define (store : Store) (frame other : FrameRef) (name known : String) (value : Value) :
    (store.define frame name value).binding? other known =
      if other = frame ∧ other < store.frames.size ∧ known = name then some value
      else store.binding? other known := by
  by_cases same : other = frame
  · subst same
    by_cases inside : other < store.frames.size
    · simp [binding?_define_self _ _ _ _ inside, inside]
    · simp [binding?, Store.define, inside]
  · rw [binding?_define_of_ne _ _ _ _ (Ne.symm same), if_neg fun all => same all.1]

theorem binding?_addFrame (store : Store) (parent : FrameRef) (label : String) (frame : FrameRef)
    (name : String) : (store.addFrame parent label).2.binding? frame name = store.binding? frame name := by
  simp only [binding?, Store.addFrame, Array.getElem?_push]
  split
  · next new =>
    rw [Array.getElem?_eq_none (Nat.le_of_eq new.symm)]
    rfl
  · rfl

theorem visible_addFrame (store : Store) (parent : FrameRef) (label : String) (frame : FrameRef) :
    (store.addFrame parent label).2.visible frame =
      if frame = store.frames.size then frame :: store.visible parent else store.visible frame := by
  by_cases new : frame = store.frames.size
  · subst new
    rw [if_pos rfl]
    exact visible_push rfl
  · simp [visible, Store.addFrame, Array.getElem?_push, new]

end Store

/-! ## Stores with a frame more -/

/-- The frames seen from a frame in the two runs, the nearest first. -/
inductive ChainsNest : List FrameRef → List FrameRef → Prop
  | none : ChainsNest [] []
  | root : ChainsNest [Store.root] [Store.root + 1, Store.root]
  | cons {frame : FrameRef} {chain chain' : List FrameRef} (inner : frame ≠ Store.root)
      (rest : ChainsNest chain chain') : ChainsNest (frame :: chain) ((frame + 1) :: chain')

/-- The frame that a run starts with. -/
def Frame.start : Frame := ⟨"global", [], Store.builtinBindings⟩

/-- The frames of the second store are those of the first, inside a root frame as it was at the start. -/
structure FramesNest (store store' : Store) : Prop where
  size : store'.frames.size = store.frames.size + 1
  positive : 0 < store.frames.size
  start : store'.frames[Store.root]? = some .start
  chains : ∀ frame, ChainsNest (store.visible frame) (store'.visible (frame + 1))
  inner : ∀ frame ≠ Store.root, ∀ name, store.binding? frame name = store'.binding? (frame + 1) name
  outer : ∀ name, store.binding? Store.root name =
    (store'.binding? (Store.root + 1) name).or (Store.builtinBindings.get? name)

namespace FramesNest

variable {store store' later later' : Store} (nest : FramesNest store store')

include nest

/-- What is seen from a frame is what is seen from the frame that stands for it. -/
theorem lookup? (frame : FrameRef) (name : String) :
    store.lookup? frame name = store'.lookup? (frame + 1) name := by
  have built : store'.binding? Store.root name = Store.builtinBindings.get? name := by
    rw [Store.binding?, nest.start]
    rfl
  have chains := nest.chains frame
  unfold Store.lookup?
  generalize store.visible frame = chain at chains ⊢
  generalize store'.visible (frame + 1) = chain' at chains ⊢
  induction chains with
  | none => rfl
  | root =>
    simp only [List.findSome?_cons, List.findSome?_nil, built, nest.outer name]
    cases store'.binding? (Store.root + 1) name with
    | some value => rfl
    | none => cases Store.builtinBindings.get? name <;> rfl
  | cons inner rest ih => rw [List.findSome?_cons, List.findSome?_cons, nest.inner _ inner, ih]

theorem of_eq (frames : later.frames = store.frames) (frames' : later'.frames = store'.frames) :
    FramesNest later later' := by
  have visible (frame : FrameRef) : later.visible frame = store.visible frame := by
    rw [Store.visible, Store.visible, frames]
  have visible' (frame : FrameRef) : later'.visible frame = store'.visible frame := by
    rw [Store.visible, Store.visible, frames']
  have binding? (frame : FrameRef) (name : String) :
      later.binding? frame name = store.binding? frame name := by
    rw [Store.binding?, Store.binding?, frames]
  have binding?' (frame : FrameRef) (name : String) :
      later'.binding? frame name = store'.binding? frame name := by
    rw [Store.binding?, Store.binding?, frames']
  refine ⟨?_, ?_, ?_, fun frame => ?_, fun frame inner name => ?_, fun name => ?_⟩
  · rw [frames, frames']
    exact nest.size
  · rw [frames]
    exact nest.positive
  · rw [frames']
    exact nest.start
  · rw [visible, visible']
    exact nest.chains frame
  · rw [binding?, binding?']
    exact nest.inner frame inner name
  · rw [binding?, binding?']
    exact nest.outer name

theorem define (frame : FrameRef) (name : String) (value : Value) :
    FramesNest (store.define frame name value) (store'.define (frame + 1) name value) where
  size := by simpa [Store.define] using nest.size
  positive := by simpa [Store.define] using nest.positive
  start := by
    simp only [Store.define, Array.getElem?_modify]
    exact nest.start
  chains other := by
    rw [Store.visible_define, Store.visible_define]
    exact nest.chains other
  inner other inner known := by
    simp only [Store.binding?_define, nest.inner other inner, nest.size, Nat.add_right_cancel_iff,
      Nat.add_lt_add_iff_right]
  outer known := by
    simp only [Store.binding?_define, nest.outer, nest.size, Nat.add_right_cancel_iff,
      Nat.add_lt_add_iff_right]
    split <;> rfl

theorem addFrame (parent : FrameRef) (label : String) :
    FramesNest (store.addFrame parent label).2 (store'.addFrame (parent + 1) label).2 where
  size := by simp [Store.addFrame, nest.size]
  positive := by simp [Store.addFrame]
  start := by
    have inside : Store.root < store'.frames.size := by
      rw [nest.size]
      exact Nat.succ_pos _
    simp only [Store.addFrame, Array.getElem?_push, if_neg (Nat.ne_of_lt inside)]
    exact nest.start
  chains frame := by
    rw [Store.visible_addFrame, Store.visible_addFrame, nest.size]
    simp only [Nat.add_right_cancel_iff]
    split
    · next new =>
      have inner : frame ≠ Store.root := by
        rw [new]
        exact Nat.ne_of_gt nest.positive
      exact .cons inner (nest.chains parent)
    · exact nest.chains frame
  inner frame inner name := by
    rw [Store.binding?_addFrame, Store.binding?_addFrame]
    exact nest.inner frame inner name
  outer name := by
    rw [Store.binding?_addFrame, Store.binding?_addFrame]
    exact nest.outer name

end FramesNest

/-! ## Stores -/

/-- A function whose scope stands one frame further down. -/
def Callable.nested : Callable → Callable
  | builtin function => .builtin function
  | closure function => .closure { function with scope := function.scope + 1 }
  | memoized function cache => .memoized { function with scope := function.scope + 1 } cache
  | arrow params body scope => .arrow params body (scope + 1)

variable (callable : Callable)

theorem Callable.name_nested : callable.nested.name = callable.name := by
  cases callable <;> rfl

theorem Callable.sort_nested : callable.nested.sort = callable.sort := by
  cases callable <;> rfl

/-- The second store is the first, with a frame more around all others. -/
structure Store.Nests (store store' : Store) : Prop where
  frames : FramesNest store store'
  arrays : store'.arrays = store.arrays
  objects : store'.objects = store.objects
  functions : store'.functions = store.functions.map Callable.nested
  distinct : store.NamesDistinct
  output : store.output = store'.output
  requests : store.requests = store'.requests

/-- Frames stand one number further down, everything else stays where it is. -/
def Link.nested : Link := ⟨fun frame frame' => frame' = frame + 1, Eq, Eq, Eq, fun _ => True⟩

namespace Link

theorem pairs_nested (value : Value) : nested.Pairs value value := by
  cases value <;> constructor <;> trivial

theorem pairs_nested_iff {value value' : Value} : nested.Pairs value value' ↔ value = value' := by
  refine ⟨fun paired => ?_, fun same => same ▸ pairs_nested value⟩
  cases paired with
  | array paired => exact congrArg _ paired
  | object paired => exact congrArg _ paired
  | function paired => exact congrArg _ paired
  | _ => rfl

theorem pairs_nested_option (result : Option Value) : Pairing.value.option.pairs nested result result := by
  cases result with
  | none => exact .none
  | some value => exact .some (pairs_nested value)

theorem pairs_nested_list_iff {values values' : List Value} :
    Pairing.value.list.pairs nested values values' ↔ values = values' := by
  refine ⟨fun paired => ?_, fun same => same ▸ List.forall₂_same.mpr fun value _ => pairs_nested value⟩
  induction paired with
  | nil => rfl
  | cons head _ ih => rw [pairs_nested_iff.mp head, ih]

theorem pairs_nested_array_iff {elements others : Array Value} :
    Pairing.array.pairs nested elements others ↔ elements = others :=
  pairs_nested_list_iff.trans Array.toList_inj

theorem pairs_nested_entries {entries others : Table Value}
    (paired : Pairing.entries.pairs nested entries others) : entries = others := by
  induction paired with
  | nil => rfl
  | cons head _ ih => rw [ih, Prod.ext head.1 (pairs_nested_iff.mp head.2)]

end Link

namespace Store.Nests

variable {store store' : Store} (nests : store.Nests store')

include nests

theorem found (ref : FunctionRef) :
    store'.functions[ref]? = store.functions[ref]?.map Callable.nested := by
  rw [nests.functions, Array.getElem?_map]

theorem sameCells : store.SameCells store' where
  arrays := nests.arrays
  objects := nests.objects
  names ref := by
    rw [nests.found, Option.map_map]
    congr 1
    funext callable
    exact callable.name_nested
  sorts ref := by
    rw [nests.found, Option.map_map]
    congr 1
    funext callable
    exact callable.sort_nested

/-! ### Changes to both -/

theorem record_left (event : Event) : (store.record event).Nests store' :=
  { nests with
    frames := nests.frames.of_eq rfl rfl
    output := (output_record store event).trans nests.output }

theorem record_right (event : Event) : store.Nests (store'.record event) :=
  { nests with
    frames := nests.frames.of_eq rfl rfl
    output := nests.output.trans (output_record store' event).symm }

theorem write (text : String) : (store.write text).Nests (store'.write text) :=
  { nests with
    frames := nests.frames.of_eq rfl rfl
    output := by rw [output_write, output_write, nests.output] }

theorem request : ({ store with requests := store.requests + 1 } : Store).Nests
    { store' with requests := store'.requests + 1 } :=
  { nests with
    frames := nests.frames.of_eq rfl rfl
    requests := congrArg (· + 1) nests.requests }

theorem addArray (elements : Array Value) :
    (store.addArray elements).2.Nests (store'.addArray elements).2 :=
  { nests with
    frames := nests.frames.of_eq rfl rfl
    arrays := congrArg (·.push elements) nests.arrays }

theorem addObject {entries : Table Value} (distinct : entries.keys.Nodup) :
    (store.addObject entries).2.Nests (store'.addObject entries).2 :=
  { nests with
    frames := nests.frames.of_eq rfl rfl
    objects := congrArg (·.push entries) nests.objects
    distinct := nests.distinct.addObject distinct }

theorem updateArray (ref : ArrayRef) {change change' : Array Value → Array Value}
    (same : ∀ elements, change elements = change' elements) :
    (store.updateArray ref change).Nests (store'.updateArray ref change') := by
  cases (funext same : change = change')
  exact { nests with
    frames := nests.frames.of_eq rfl rfl
    arrays := congrArg (·.modify ref change) nests.arrays }

theorem define (frame : FrameRef) (name : String) (value : Value) :
    (store.define frame name value).Nests (store'.define (frame + 1) name value) :=
  { nests with frames := nests.frames.define frame name value }

theorem addFrame (parent : FrameRef) (label : String) :
    (store.addFrame parent label).2.Nests (store'.addFrame (parent + 1) label).2 :=
  { nests with frames := nests.frames.addFrame parent label }

theorem addFunction : (store.addFunction callable).2.Nests (store'.addFunction callable.nested).2 :=
  { nests with
    frames := nests.frames.of_eq rfl rfl
    functions := by simp [Store.addFunction, nests.functions] }

theorem remember (ref : FunctionRef) (key : String) (result : Value) :
    (store.remember ref key result).Nests (store'.remember ref key result) := by
  refine { nests with frames := nests.frames.of_eq rfl rfl, functions := ?_ }
  refine Array.ext_getElem? fun other => ?_
  simp only [Store.remember, Array.getElem?_map, Array.getElem?_modify, nests.found]
  split
  · cases store.functions[other]? with
    | none => rfl
    | some callable => cases callable <;> rfl
  · rfl

end Store.Nests

/-! ## Execution -/

/-- The two runs, on one host. Neither gets lost and neither is cut short. -/
def Bond.nesting (host : Host) : Bond where
  left := host
  right := host
  linked link store store' := link = .nested ∧ store.Nests store'
  lost _ := False
  stuck _ := False
  shortLeft := False
  shortRight := False

namespace Bond

variable {host : Host}

theorem nesting_losing {α : Type} (step : Exec α) : step.Follows (nesting host).losing :=
  ⟨fun _ _ lost => lost.elim⟩

theorem nesting_lawful (host : Host) : (nesting host).Lawful where
  elements := by
    rintro _ store store' ref _ ⟨rfl, nests⟩ rfl
    exact Link.pairs_nested_array_iff.mpr (nests.sameCells.elements_eq ref).symm
  entries := by
    rintro _ store store' ref _ ⟨rfl, nests⟩ rfl name
    rw [nests.sameCells.entries_eq]
    exact Link.pairs_nested_option _
  distinct := by
    rintro _ store store' ⟨rfl, nests⟩
    exact ⟨nests.distinct, fun ref => nests.sameCells.entries_eq ref ▸ nests.distinct ref⟩
  names := by
    rintro _ store store' ref _ ⟨rfl, nests⟩ rfl
    exact (nests.sameCells.names ref).symm
  depth linked := Nat.le_of_eq linked.2.sameCells.depth_eq.symm
  stuck := by
    refine .inr ?_
    rintro _ store store' value _ ⟨rfl, nests⟩ paired
    cases Link.pairs_nested_iff.mp paired
    exact nests.sameCells.looksLike value
  addArray := by
    rintro _ store store' elements _ ⟨rfl, nests⟩ paired
    cases Link.pairs_nested_array_iff.mp paired
    exact ⟨_, le_rfl, congrArg Array.size nests.arrays.symm, rfl, nests.addArray elements⟩
  addObject := by
    rintro _ store store' entries _ ⟨rfl, nests⟩ distinct _ paired
    cases Link.pairs_nested_entries paired
    exact ⟨_, le_rfl, congrArg Array.size nests.objects.symm, rfl, nests.addObject distinct⟩
  sameLimit := rfl
  sturdy := .of_frames_functions fun _ _ => id
  arrays := by
    rintro _ store store' _ _ _ _ ⟨rfl, -⟩ rfl rfl -
    exact Iff.rfl
  objects := by
    rintro _ store store' _ _ _ _ ⟨rfl, -⟩ rfl rfl -
    exact Iff.rfl
  functions := by
    rintro _ store store' _ _ _ _ ⟨rfl, -⟩ rfl rfl
    exact Iff.rfl
  updateArray := by
    rintro _ store store' ref _ change change' ⟨rfl, nests⟩ rfl - - changes
    refine ⟨rfl, nests.updateArray ref fun elements => ?_⟩
    exact Link.pairs_nested_array_iff.mp (changes elements elements (Link.pairs_nested_array_iff.mpr rfl))
  record linked _ := ⟨linked.1, (linked.2.record_left _).record_right _⟩
  write linked := ⟨linked.1, linked.2.write _⟩
  requests linked := linked.2.requests
  request linked := ⟨linked.1, linked.2.request⟩
  hosts := rfl
  recordLost := id
  lookup := by
    rintro _ store store' frame _ name ⟨rfl, nests⟩ rfl
    rw [nests.frames.lookup?]
    exact Link.pairs_nested_option _
  define := by
    rintro _ store store' frame _ name value _ ⟨rfl, nests⟩ rfl paired
    cases Link.pairs_nested_iff.mp paired
    exact ⟨rfl, nests.define frame name value⟩
  addFrame := by
    rintro _ store store' parent _ label ⟨rfl, nests⟩ rfl
    exact ⟨_, le_rfl, nests.frames.size, rfl, nests.addFrame parent label⟩
  defineLost := id
  addFrameLost := id
  caughtLost excused := not_excused (fun _ _ => id) excused
  excusesRecord := id

/-- The functions of the second run are those of the first, one frame further down. -/
theorem mirrors_newFunction :
    (newFunction callable).Mirrors (nesting host) .nested Pairing.value.pairs
      (newFunction callable.nested) := by
  have made : (create (·.addFunction callable)).Mirrors (nesting host) .nested Pairing.functionRef.pairs
      (create (·.addFunction callable.nested)) := by
    refine mirrors_create (fun _ => id) ?_
    rintro _ - store store' ⟨rfl, nests⟩
    have size : store.functions.size = store'.functions.size := by simp [nests.functions]
    exact ⟨_, le_rfl, size, rfl, nests.addFunction callable⟩
  exact made.bind fun _ _ _ _ refs => mirrors_pure (.function refs)

theorem nesting_pairsMade (node : Node) : (nesting host).PairsMade .nested node := by
  intro wider _ frame frame' frames make make' closure closure'
  refine mirrors_of_linked (nesting_losing _) ?_
  rintro _ further store store' ⟨rfl, -⟩
  cases (further.frames frames : frame' = frame + 1)
  cases node with
  | function name params body paramTypes returnType isPure =>
    cases closure
    cases closure'
    refine mirrors_host (fun _ => nesting_losing _) ?_
    change (newFunction (if isPure && host.memoizes then _ else _)).Mirrors (nesting host) _ _
      (newFunction (if isPure && host.memoizes then _ else _))
    split
    · exact mirrors_newFunction (.memoized ⟨functionName name, params, body, frame⟩ [])
    · exact mirrors_newFunction (.closure ⟨functionName name, params, body, frame⟩)
  | arrow params body =>
    cases closure
    cases closure'
    exact mirrors_newFunction (.arrow params body frame)
  | _ => cases closure

/-- Executions of nodes and calls do the same in the two runs. -/
structure Nesting (host : Host) (effort : Nat) : Prop where
  exec : ∀ node, Evaluator.MirrorsNode (nesting host) .nested (evaluator effort) (evaluator effort) node
  call : Caller.Mirrors (nesting host) .nested (evaluator effort).call (evaluator effort).call

variable {effort : Nat}

theorem Nesting.callClosure (nested : Nesting host effort) (function : Closure) (args : List Value) :
    ((evaluator effort).callClosure function args).Mirrors (nesting host) .nested Pairing.value.pairs
      ((evaluator effort).callClosure { function with scope := function.scope + 1 } args) :=
  Evaluator.mirrors_callClosure (nesting_lawful host) rfl (fun node _ => nested.exec node)
    (Link.pairs_nested_list_iff.mpr rfl)

theorem Nesting.callFunction (nested : Nesting host effort) :
    Caller.Mirrors (nesting host) .nested (evaluator effort).callFunction
      (evaluator effort).callFunction := by
  intro wider _ ref ref' args args' refs paired
  refine mirrors_of_linked (nesting_losing _) ?_
  rintro _ further _ _ ⟨rfl, -⟩
  cases (further.functions refs : ref = ref')
  cases Link.pairs_nested_list_iff.mp (Pairing.value.list.mono paired further)
  refine ⟨nesting_losing _, ?_⟩
  rintro _ - store store' ⟨rfl, nests⟩
  -- The second run finds the same function with its scope one frame further down.
  have found' := nests.found ref
  cases found : store.functions[ref]? with
  | none =>
    rw [found] at found'
    rw [Evaluator.callFunction_of_none found, Evaluator.callFunction_of_none found']
    exact .inr (.inr (.inr (.inr ⟨_, le_rfl, store', rfl, rfl, nests⟩)))
  | some callable =>
    rw [found] at found'
    rw [Evaluator.callFunction_eq found, Evaluator.callFunction_eq found']
    cases callable with
    | builtin function =>
      exact (function.mirrors_call (nesting_lawful host).toFaithful
        (Link.pairs_nested_list_iff.mpr rfl)).meets _ le_rfl _ _ ⟨rfl, nests⟩
    | closure function => exact (nested.callClosure function args).meets _ le_rfl _ _ ⟨rfl, nests⟩
    | memoized function cache =>
      refine (Evaluator.mirrors_callMemoized (nesting_lawful host) (fun linked => linked.2.sameCells)
        (fun linked => ⟨linked.1, (linked.2.record_left _).record_right _⟩) (fun entry _ => Link.pairs_nested entry.2) (nested.callClosure function args) ?_).meets _ le_rfl _ _
        ⟨rfl, nests⟩
      intro link key result result' paired
      refine mirrors_change (fun _ => id) ?_
      rintro _ after store store' ⟨rfl, nests⟩
      cases Link.pairs_nested_iff.mp (paired.mono after)
      exact ⟨rfl, nests.remember ref key result⟩
    | arrow params body scope =>
      exact (Evaluator.mirrors_callArrow (nesting_lawful host) rfl (nested.exec body) params
        (Link.pairs_nested_list_iff.mpr rfl)).meets _ le_rfl _ _ ⟨rfl, nests⟩

theorem nesting_evaluator (host : Host) (effort : Nat) : Nesting host effort := by
  induction effort with
  | zero =>
    exact ⟨fun _ _ _ _ _ _ => mirrors_unfinished (.inr rfl),
      fun _ _ _ _ _ _ _ _ => mirrors_unfinished (.inr rfl)⟩
  | succ effort ih =>
    refine ⟨fun node wider within frame frame' frames => ?_, ih.callFunction⟩
    exact (Evaluator.mirrors_execNode (nesting_lawful host) ⟨.inr (Nat.le_refl _), .inr (Nat.le_refl _)⟩
      .ofFunction (.inl trivial) (fun part _ => (ih.exec part.2).mono within)
      (fun part _ last further => nesting_pairsMade part.2 last (within.trans further))
      (fun last further => ih.call last (within.trans further))
      (fun value _ => (Link.pairs_nested value).mono within) frames).everywhere
      fun _ => Node.not_touches (fun _ _ => id) fun _ _ _ => id

end Bond

/-! ## Programs -/

theorem Exec.settle_bind {α β γ : Type} (step : Exec α) (next : α → Exec β) (onDone : β → Exec γ)
    (onStop : Stop → Exec γ) :
    settle (step >>= next) onDone onStop =
      settle step (fun result => settle (next result) onDone onStop) onStop := by
  funext host store
  change settle (andThen step next) onDone onStop host store = _
  unfold settle andThen
  cases step host store <;> rfl

section Programs

variable {host : Host} {effort : Nat}

/-- The first run also reports the start of each node. -/
theorem mirrors_record_left {α : Type} {pairs : Link → α → α → Prop} (event : Event) {next mirror : Exec α}
    (mirrors : next.Mirrors (.nesting host) .nested pairs mirror) :
    (record event >>= fun _ => next).Mirrors (.nesting host) .nested pairs mirror := by
  refine ⟨Bond.nesting_losing _, ?_⟩
  rintro _ - store store' ⟨rfl, nests⟩
  exact mirrors.meets _ le_rfl _ _ ⟨rfl, nests.record_left event⟩

/-- Top-level nodes do what statements of a block do, one frame further down. -/
theorem mirrors_runNodes_block (block : Node) (nodes : List Node) (index : Nat) (last : Value) :
    ((evaluator effort).runNodes index nodes).Mirrors (.nesting host) .nested (Pairing.same).pairs
      (settle ((evaluator effort).runFrom (Store.root + 1) last nodes) (fun _ => done ())
        (block.stopProgram 0)) := by
  induction nodes generalizing index last with
  | nil => exact mirrors_done fun _ _ => rfl
  | cons node rest ih =>
    refine mirrors_record_left _ ?_
    rw [Evaluator.runFrom, settle_bind]
    have exec := ((Bond.nesting_evaluator host effort).exec node).here (rfl : Link.nested.frames Store.root _)
    refine exec.settle (fun _ _ excused => absurd excused (Bond.not_excused fun _ _ => id)) (fun wider within _ value _ => (ih (index + 1) value).mono within) ?_
    exact fun _ _ _ _ stops => node.mirrors_stopProgram (Bond.nesting_lawful host) block index 0 stops

end Programs

theorem Store.initial_nests : Store.initial.Nests (Store.initial.addFrame Store.root "block").2 where
  frames := {
    size := rfl
    positive := Nat.one_pos
    start := rfl
    chains := fun frame => by
      cases frame with
      | zero => exact .root
      | succ frame => simpa [Store.visible, Store.initial, Store.addFrame] using ChainsNest.none
    inner := fun frame inner name => by
      rw [Store.binding?_addFrame]
      cases frame with
      | zero => exact absurd rfl inner
      | succ frame => simp [Store.binding?, Store.initial]
    outer := fun name => by
      rw [Store.binding?_addFrame]
      simp [Store.binding?, Store.initial, Store.root] }
  arrays := rfl
  objects := rfl
  functions := by simp [Store.addFrame, Store.initial, Callable.nested]
  distinct := Store.initial_namesDistinct
  output := rfl
  requests := rfl

/-- Two runs printed the same and ended in the same way: both to the end, with failures that a script
cannot tell apart, with the same fault, or not at all. -/
inductive Outcome.EndsAlike : Outcome Unit → Outcome Unit → Prop
  | done {store store' : Store} (printed : store.output = store'.output) :
      EndsAlike (.done () store) (.done () store')
  | failed {cause cause' : Failure} {store store' : Store} (alike : cause.Alike cause')
      (printed : store.output = store'.output) :
      EndsAlike (.stopped (.failure cause) store) (.stopped (.failure cause') store')
  | crashed (cause : Fault) {store store' : Store} (printed : store.output = store'.output) :
      EndsAlike (.stopped (.fault cause) store) (.stopped (.fault cause) store')
  | unfinished {store store' : Store} (printed : store.output = store'.output) :
      EndsAlike (.unfinished store) (.unfinished store')

/-- Runs that are mirrored end alike, and the second one leaves its root frame as it was. -/
theorem endsAlike_of_meets (host : Host) {outcome outcome' : Outcome Unit}
    (meets : outcome.Meets ((Bond.nesting host).ending (Pairing.same).pairs .nested outcome'))
    (noSignal : ∀ signal after, outcome ≠ .stopped (.signal signal) after) :
    outcome.EndsAlike outcome' ∧ outcome'.store.frames[Store.root]? = some .start := by
  cases outcome with
  | done result store =>
    rcases meets with lost | cuts | ⟨_, -, _, store', rfl, -, rfl, nests⟩
    · exact lost.elim
    · exact cuts.1.elim
    · exact ⟨.done nests.output, nests.frames.start⟩
  | stopped reason store =>
    rcases meets with (lost | excused) | cuts | ⟨_, -, reason', store', rfl, reasons, rfl, nests⟩
    · exact lost.elim
    · exact absurd excused (Bond.not_excused fun _ _ => id)
    · exact cuts.1.elim
    · cases reasons with
      | failure alike => exact ⟨.failed alike nests.output, nests.frames.start⟩
      | fault cause => exact ⟨.crashed cause nests.output, nests.frames.start⟩
      | _ => exact absurd rfl (noSignal _ _)
  | unfinished store =>
    rcases meets with lost | short | stuck | cuts | ⟨_, -, store', rfl, rfl, nests⟩
    · exact lost.elim
    · exact short.elim
    · exact stuck.elim
    · exact cuts.1.elim
    · exact ⟨.unfinished nests.output, nests.frames.start⟩

theorem runProgram_nests (host : Host) (effort : Nat) (nodes : List Node) :
    (runProgram host effort nodes).EndsAlike (runProgram host (effort + 1) [.block nodes]) ∧
      (runProgram host (effort + 1) [.block nodes]).store.frames[Store.root]? = some .start := by
  let block : Node := .block nodes
  let started := Store.initial.record (.started nodes.length)
  let started' := Store.initial.record (.started 1) |>.record (.nodeStarted 0 block.kindName)
  have nests : started.Nests (started'.addFrame Store.root "block").2 :=
    ((Store.initial_nests.record_left _).record_right (.started 1)).record_right
      (.nodeStarted 0 block.kindName)
  have wrapped : runProgram host (effort + 1) [.block nodes] =
      settle ((evaluator effort).runFrom (Store.root + 1) .undefined nodes) (fun _ => done ())
        (block.stopProgram 0) host (started'.addFrame Store.root "block").2 := by
    change (block.execTopLevel (effort + 1) 0 >>= fun _ => done ()) host started' = _
    rw [block.execTopLevel_bind]
    rfl
  rw [wrapped, runProgram_eq]
  refine endsAlike_of_meets host ?_ ((evaluator effort).runNodes_ne_signal nodes 0 started)
  exact (mirrors_runNodes_block block nodes 0 .undefined).meets _ le_rfl _ _ ⟨rfl, nests⟩

/-- A program does the same inside a block: with the effort for one node more the two runs print the same
and end alike. The root frame holds exactly the built-in functions after the block, however it ends. -/
theorem runProgram_block_alike (host : Host) (nodes : List Node) :
    (∀ effort, (runProgram host effort nodes).EndsAlike (runProgram host (effort + 1) [.block nodes])) ∧
      (runProgram host 0 [.block nodes]).IsUnfinished ∧
      ∀ effort, (runProgram host effort [.block nodes]).store.frames[Store.root]? =
        some ⟨"global", [], Store.builtinBindings⟩ := by
  refine ⟨fun effort => (runProgram_nests host effort nodes).1, trivial, fun effort => ?_⟩
  cases effort with
  | zero => rfl
  | succ effort => exact (runProgram_nests host effort nodes).2

end TreeScript
