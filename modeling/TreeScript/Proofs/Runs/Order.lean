import TreeScript.Proofs.Runs.Cells
import TreeScript.Proofs.Runs.Traces

/-! # Cells hold only older values

In a program that never fills an array after it was made, an array or object can only be made of values
that are there already. So nothing contains itself, and every value can be shown. The states of other
programs are closed as well.

That the values at hand are in the store is followed along an execution by running it side by side with
itself: the link of the two runs knows the cells of the store and pairs each with itself.
-/

namespace TreeScript

open Exec

/-! ## A run side by side with itself -/

namespace Store

variable {store later : Store}

/-- The link that knows the cells of a store and pairs each with itself. -/
def link (store : Store) : Link where
  frames frame frame' := frame = frame' ∧ frame < store.frames.size
  arrays ref ref' := ref = ref' ∧ ref < store.arrays.size
  objects ref ref' := ref = ref' ∧ ref < store.objects.size
  functions ref ref' := ref = ref' ∧ ref < store.functions.size
  symbols _ := True

theorem link_le (frames : store.frames.size ≤ later.frames.size)
    (arrays : store.arrays.size ≤ later.arrays.size) (objects : store.objects.size ≤ later.objects.size)
    (functions : store.functions.size ≤ later.functions.size) : store.link ≤ later.link :=
  Link.Within.mk (fun paired => ⟨paired.1, Nat.lt_of_lt_of_le paired.2 frames⟩)
    (fun paired => ⟨paired.1, Nat.lt_of_lt_of_le paired.2 arrays⟩)
    (fun paired => ⟨paired.1, Nat.lt_of_lt_of_le paired.2 objects⟩)
    (fun paired => ⟨paired.1, Nat.lt_of_lt_of_le paired.2 functions⟩) id

theorem link_eq (frames : later.frames.size = store.frames.size)
    (arrays : later.arrays.size = store.arrays.size) (objects : later.objects.size = store.objects.size)
    (functions : later.functions.size = store.functions.size) : store.link = later.link := by
  simp only [link, frames, arrays, objects, functions]

theorem sameCells_transcript (store : Store) (transcript : Array Entry) :
    store.SameCells { store with transcript := transcript } :=
  ⟨rfl, rfl, fun _ => rfl, fun _ => rfl⟩

variable {value other : Value}

theorem pairs_link_iff : store.link.Pairs value other ↔ value = other ∧ store.Has value := by
  constructor
  · intro paired
    cases paired with
    | array paired => exact ⟨congrArg _ paired.1, paired.2⟩
    | object paired => exact ⟨congrArg _ paired.1, paired.2⟩
    | function paired => exact ⟨congrArg _ paired.1, paired.2⟩
    | _ => exact ⟨rfl, trivial⟩
  · rintro ⟨rfl, has⟩
    cases value with
    | array ref => exact .array ⟨rfl, has⟩
    | object ref => exact .object ⟨rfl, has⟩
    | function ref => exact .function ⟨rfl, has⟩
    | symbol value => exact .symbol trivial
    | _ => constructor

theorem pairs_link_list_iff {values others : List Value} :
    Pairing.value.list.pairs store.link values others ↔ values = others ∧ ∀ value ∈ values, store.Has value := by
  constructor
  · intro paired
    induction paired with
    | nil => exact ⟨rfl, List.forall_mem_nil _⟩
    | cons head _ ih =>
      obtain ⟨rfl, has⟩ := pairs_link_iff.mp head
      exact ⟨congrArg _ ih.1, List.forall_mem_cons.mpr ⟨has, ih.2⟩⟩
  · rintro ⟨rfl, has⟩
    exact List.forall₂_same.mpr fun value member => pairs_link_iff.mpr ⟨rfl, has value member⟩

theorem pairs_link_array_iff {elements others : Array Value} :
    Pairing.array.pairs store.link elements others ↔
      elements = others ∧ ∀ value ∈ elements, store.Has value := by
  refine (pairs_link_list_iff : Pairing.value.list.pairs store.link elements.toList others.toList ↔ _).trans ?_
  simp only [Array.toList_inj, Array.mem_toList_iff]

theorem pairs_link_entries {entries others : Table Value}
    (paired : Pairing.entries.pairs store.link entries others) :
    entries = others ∧ ∀ entry ∈ entries, store.Has entry.2 := by
  induction paired with
  | nil => exact ⟨rfl, List.forall_mem_nil _⟩
  | cons head _ ih =>
    obtain ⟨values, has⟩ := pairs_link_iff.mp head.2
    exact ⟨congrArg₂ _ (Prod.ext head.1 values) ih.1, List.forall_mem_cons.mpr ⟨has, ih.2⟩⟩

theorem pairs_link_option {result : Option Value} (has : ∀ value, result = some value → store.Has value) :
    Pairing.value.option.pairs store.link result result := by
  cases result with
  | none => exact .none
  | some value => exact .some (pairs_link_iff.mpr ⟨rfl, has value rfl⟩)

end Store

/-- Two runs of one program on one host, alike but for what they report. Arrays may gain elements only where
they may be filled. -/
def Bond.alone (host : Host) (mayFill : Bool) : Bond where
  left := host
  right := host
  linked link store store' := link = store.link ∧
    (∃ transcript, store' = { store with transcript := transcript }) ∧ store.InOrder mayFill
  lost _ := False
  stuck := Store.InOrder mayFill
  shortLeft := False
  shortRight := False
  gains := mayFill = true

namespace Bond

variable {host : Host} {mayFill : Bool}

theorem alone_losing {α : Type} (step : Exec α) : step.Follows (alone host mayFill).losing :=
  ⟨fun _ _ lost => lost.elim⟩

theorem alone_lawful (host : Host) (mayFill : Bool) : (alone host mayFill).Lawful where
  elements := by
    rintro _ store _ ref _ ⟨rfl, ⟨transcript, rfl⟩, inOrder⟩ ⟨rfl, -⟩
    exact Store.pairs_link_array_iff.mpr ⟨rfl, inOrder.closed.elements ref⟩
  entries := by
    rintro _ store _ ref _ ⟨rfl, ⟨transcript, rfl⟩, inOrder⟩ ⟨rfl, -⟩ name
    exact Store.pairs_link_option fun value found =>
      inOrder.closed.entries ref _ (Table.mem_of_get?_eq_some found)
  distinct := by
    rintro _ store _ ⟨rfl, ⟨transcript, rfl⟩, inOrder⟩
    exact ⟨inOrder.closed.distinct, inOrder.closed.distinct⟩
  names := by
    rintro _ store _ ref _ ⟨rfl, ⟨transcript, rfl⟩, -⟩ ⟨rfl, -⟩
    rfl
  depth := by
    rintro _ store _ ⟨rfl, ⟨transcript, rfl⟩, -⟩
    exact Nat.le_refl _
  stuck := by
    refine .inr ?_
    rintro _ store _ value _ ⟨rfl, ⟨transcript, rfl⟩, -⟩ paired
    cases (Store.pairs_link_iff.mp paired).1
    exact (store.sameCells_transcript transcript).looksLike value
  addArray := by
    rintro _ store _ elements _ ⟨rfl, ⟨transcript, rfl⟩, inOrder⟩ paired
    obtain ⟨rfl, has⟩ := Store.pairs_link_array_iff.mp paired
    refine ⟨(store.addArray elements).2.link, ?_, ⟨rfl, ?_⟩, rfl, ⟨transcript, rfl⟩, inOrder.addArray has⟩
    · apply Store.link_le <;> simp [Store.addArray]
    · simp [Store.addArray]
  addObject := by
    rintro _ store _ entries _ ⟨rfl, ⟨transcript, rfl⟩, inOrder⟩ distinct - paired
    obtain ⟨rfl, has⟩ := Store.pairs_link_entries paired
    refine ⟨(store.addObject entries).2.link, ?_, ⟨rfl, ?_⟩, rfl, ⟨transcript, rfl⟩,
      inOrder.addObject distinct has⟩
    · apply Store.link_le <;> simp [Store.addObject]
    · simp [Store.addObject]
  sameLimit := rfl
  sturdy := .of_frames_functions fun _ _ => id
  arrays := by
    rintro _ store _ _ _ _ _ ⟨rfl, -⟩ ⟨rfl, -⟩ ⟨rfl, -⟩ -
    exact Iff.rfl
  objects := by
    rintro _ store _ _ _ _ _ ⟨rfl, -⟩ ⟨rfl, -⟩ ⟨rfl, -⟩ -
    exact Iff.rfl
  functions := by
    rintro _ store _ _ _ _ _ ⟨rfl, -⟩ ⟨rfl, -⟩ ⟨rfl, -⟩
    exact Iff.rfl
  updateArray := by
    rintro _ store _ ref _ change change' ⟨rfl, ⟨transcript, rfl⟩, inOrder⟩ ⟨rfl, inside⟩ - drops changes
    obtain ⟨agree, has⟩ := Store.pairs_link_array_iff.mp
      (changes (store.elements ref) _ (Store.pairs_link_array_iff.mpr ⟨rfl, inOrder.closed.elements ref⟩))
    -- The two changes agree on the elements that are there.
    have same : store.arrays.modify ref change' = store.arrays.modify ref change := by
      refine Array.ext_getElem? fun other => ?_
      simp only [Array.getElem?_modify]
      split
      · next here =>
        have found : store.arrays[ref]? = some (store.elements ref) := by simp [Store.elements, inside]
        rw [← here, found, Option.map_some, Option.map_some, agree]
      · rfl
    refine ⟨?_, ⟨transcript, ?_⟩, inOrder.updateArray ref has drops⟩
    · apply Store.link_eq <;> simp [Store.updateArray]
    · simp only [Store.updateArray, same]
  record := by
    rintro _ store _ event event' ⟨rfl, ⟨transcript, rfl⟩, inOrder⟩ -
    exact ⟨rfl, ⟨_, rfl⟩, inOrder.record event⟩
  write := by
    rintro _ store _ text ⟨rfl, ⟨transcript, rfl⟩, inOrder⟩
    exact ⟨rfl, ⟨_, rfl⟩, inOrder.write text⟩
  requests := by
    rintro _ store _ ⟨rfl, ⟨transcript, rfl⟩, -⟩
    rfl
  request := by
    rintro _ store _ ⟨rfl, ⟨transcript, rfl⟩, inOrder⟩
    exact ⟨rfl, ⟨_, rfl⟩, inOrder.request⟩
  hosts := rfl
  recordLost := id
  lookup := by
    rintro _ store _ frame _ name ⟨rfl, ⟨transcript, rfl⟩, inOrder⟩ ⟨rfl, -⟩
    exact Store.pairs_link_option fun _ => inOrder.closed.lookup?
  define := by
    rintro _ store _ frame _ name value _ ⟨rfl, ⟨transcript, rfl⟩, inOrder⟩ ⟨rfl, -⟩ paired
    obtain ⟨rfl, has⟩ := Store.pairs_link_iff.mp paired
    refine ⟨?_, ⟨transcript, rfl⟩, inOrder.define frame name has⟩
    apply Store.link_eq <;> simp [Store.define]
  addFrame := by
    rintro _ store _ parent _ label ⟨rfl, ⟨transcript, rfl⟩, inOrder⟩ ⟨rfl, -⟩
    refine ⟨(store.addFrame parent label).2.link, ?_, ⟨rfl, ?_⟩, rfl, ⟨transcript, rfl⟩,
      inOrder.addFrame parent label⟩
    · apply Store.link_le <;> simp [Store.addFrame]
    · simp [Store.addFrame]
  defineLost := id
  addFrameLost := id
  caughtLost excused := not_excused (fun _ _ => id) excused
  excusesRecord := id

theorem mirrors_newFunction_alone {callable : Callable} {link : Link}
    (has : ∀ {store : Store}, link ≤ store.link → store.HasParts callable) (keeps : callable.KeepsOrder mayFill) :
    (newFunction callable).Mirrors (alone host mayFill) link Pairing.value.pairs (newFunction callable) := by
  have made : (create (·.addFunction callable)).Mirrors (alone host mayFill) link Pairing.functionRef.pairs
      (create (·.addFunction callable)) := by
    refine mirrors_create (fun _ => id) ?_
    rintro _ within store _ ⟨rfl, ⟨transcript, rfl⟩, inOrder⟩
    refine ⟨(store.addFunction callable).2.link, ?_, ⟨rfl, ?_⟩, rfl, ⟨transcript, rfl⟩,
      inOrder.addFunction (has within) keeps⟩
    · apply Store.link_le <;> simp [Store.addFunction]
    · simp [Store.addFunction]
  exact made.bind fun _ _ _ _ refs => mirrors_pure (.function refs)

/-- Functions are made of bodies that keep the order. -/
theorem alone_pairsMade {node : Node} {site : Site} (keeps : node.everywhere (Node.keepsOrder mayFill) site = true)
    (link : Link) : (alone host mayFill).PairsMade link node := by
  intro wider _ frame frame' frames make make' closure closure'
  refine mirrors_of_linked (alone_losing _) ?_
  rintro _ further store _ ⟨rfl, -⟩
  obtain ⟨rfl, -⟩ := further.frames frames
  have inside {later : Store} (within : store.link ≤ later.link) : frame < later.frames.size :=
    (within.frames (further.frames frames)).2
  cases node with
  | function name params body paramTypes returnType isPure =>
    cases closure
    cases closure'
    have body : allEverywhere (Node.keepsOrder mayFill) .ofFunction body = true := by
      simp only [Node.everywhere, Bool.and_eq_true] at keeps
      exact keeps.2
    refine mirrors_host (fun _ => alone_losing _) ?_
    change (newFunction (if isPure && host.memoizes then _ else _)).Mirrors (alone host mayFill) _ _
      (newFunction (if isPure && host.memoizes then _ else _))
    split
    · exact mirrors_newFunction_alone (fun within => ⟨inside within, List.forall_mem_nil _⟩) body
    · exact mirrors_newFunction_alone (fun within => inside within) body
  | arrow params body =>
    cases closure
    cases closure'
    have body : body.everywhere (Node.keepsOrder mayFill) .ofArrow = true := by
      simp only [Node.everywhere, Bool.and_eq_true] at keeps
      exact keeps.2
    exact mirrors_newFunction_alone (fun within => inside within) body
  | _ => cases closure

/-- As far as it gets, an interrupted run does what the run does that is not interrupted. -/
structure Alone (host : Host) (mayFill : Bool) (halts : RunMoment → Bool) (effort : Nat) : Prop where
  exec : ∀ {node site}, node.everywhere (Node.keepsOrder mayFill) site = true →
    Evaluator.MirrorsNode (alone host mayFill) Store.initial.link (interrupted halts effort) (evaluator effort) node
  call : Caller.Mirrors (alone host mayFill) Store.initial.link (interrupted halts effort).call (evaluator effort).call

variable {halts : RunMoment → Bool} {effort : Nat} {link : Link}

theorem Alone.callClosure (alone : Alone host mayFill halts effort) (start : Store.initial.link ≤ link)
    {function : Closure} (scopes : link.frames function.scope function.scope)
    (keeps : allEverywhere (Node.keepsOrder mayFill) .ofFunction function.body = true) {args args' : List Value}
    (paired : Pairing.value.list.pairs link args args') :
    ((interrupted halts effort).callClosure function args).Mirrors (.alone host mayFill) link Pairing.value.pairs
      ((evaluator effort).callClosure function args') :=
  Evaluator.mirrors_callClosure (alone_lawful host mayFill) scopes
    (fun node member => (alone.exec (allEverywhere_iff.mp keeps node member)).mono start) paired

theorem Alone.callFunction (alone : Alone host mayFill halts effort) :
    Caller.Mirrors (.alone host mayFill) Store.initial.link (interrupted halts effort).callFunction
      (evaluator effort).callFunction := by
  intro wider start ref ref' args args' refs paired
  refine ⟨alone_losing _, ?_⟩
  rintro _ within store _ ⟨rfl, ⟨transcript, rfl⟩, inOrder⟩
  obtain ⟨rfl, inside⟩ := within.functions refs
  have args' := Pairing.value.list.mono paired within
  cases (Store.pairs_link_list_iff.mp args').1
  have later := start.trans within
  have linked : (Bond.alone host mayFill).linked store.link store { store with transcript := transcript } :=
    ⟨rfl, ⟨transcript, rfl⟩, inOrder⟩
  -- Both runs call the same function, as their stores differ in the transcript only.
  have found : store.functions[ref]? = some _ := Array.getElem?_eq_getElem inside
  generalize store.functions[ref] = callable at found
  have parts := inOrder.closed.functions found
  have keeps := inOrder.functions ref callable found
  rw [Evaluator.callFunction_eq found, Evaluator.callFunction_eq
    (show ({ store with transcript := transcript } : Store).functions[ref]? = _ from found)]
  cases callable with
  | builtin function =>
    exact (function.mirrors_call (alone_lawful host mayFill).toFaithful args').meets _ le_rfl _ _ linked
  | closure function =>
    exact (alone.callClosure later ⟨rfl, parts⟩ keeps args').meets _ le_rfl _ _ linked
  | memoized function cache =>
    have known : ∀ entry ∈ cache, store.link.Pairs entry.2 entry.2 := fun entry member =>
      Store.pairs_link_iff.mpr ⟨rfl, parts.2 entry member⟩
    refine (Evaluator.mirrors_callMemoized (alone_lawful host mayFill) ?_ ?_ known
      (alone.callClosure later ⟨rfl, parts.1⟩ keeps args') ?_).meets _ le_rfl _ _ linked
    · rintro _ store _ ⟨rfl, ⟨transcript, rfl⟩, -⟩
      exact store.sameCells_transcript transcript
    · rintro _ store _ hit hit' ⟨rfl, ⟨transcript, rfl⟩, inOrder⟩
      exact ⟨rfl, ⟨_, rfl⟩, inOrder.record _⟩
    · intro link key result result' paired
      refine mirrors_change (fun _ => id) ?_
      rintro _ after store _ ⟨rfl, ⟨transcript, rfl⟩, inOrder⟩
      obtain ⟨rfl, has⟩ := Store.pairs_link_iff.mp (paired.mono after)
      refine ⟨?_, ⟨transcript, rfl⟩, inOrder.remember ref key has⟩
      apply Store.link_eq <;> simp [Store.remember]
  | arrow params body scope =>
    have scopes : store.link.frames scope scope := ⟨rfl, parts⟩
    exact (Evaluator.mirrors_callArrow (alone_lawful host mayFill) scopes ((alone.exec keeps).mono later) params
      args').meets _ le_rfl _ _ linked

theorem alone_interrupted (host : Host) (mayFill : Bool) (halts : RunMoment → Bool) (effort : Nat) :
    Alone host mayFill halts effort := by
  induction effort with
  | zero =>
    exact ⟨fun _ _ _ _ _ _ => mirrors_unfinished (.inr rfl),
      fun _ _ _ _ _ _ _ _ => mirrors_unfinished (.inr rfl)⟩
  | succ effort ih =>
    refine ⟨fun {node site} keeps wider within frame frame' frames => ?_, ih.callFunction⟩
    obtain ⟨here, parts⟩ := Node.everywhere_iff.mp keeps
    obtain ⟨fills, given⟩ := Bool.and_eq_true_iff.mp here
    rw [Bool.or_eq_true] at fills
    have known : ∀ value ∈ node.values, wider.Pairs value value := fun value member =>
      (Store.pairs_link_iff.mpr ⟨rfl, Value.has_of_isGiven (List.all_eq_true.mp given value member)⟩).mono within
    have mirrors : ((interrupted halts effort).execNode effort node frame).Mirrors (alone host mayFill) wider
        Pairing.value.pairs ((evaluator effort).execNode effort node frame') :=
      (Evaluator.mirrors_execNode (alone_lawful host mayFill) ⟨.inr (Nat.le_refl _), .inr (Nat.le_refl _)⟩ site
        (fills.imp id (by simpa using ·)) (fun part member => (ih.exec (parts part member)).mono within)
        (fun part member => alone_pairsMade (parts part member) wider)
        (fun last further => ih.call last (within.trans further)) known frames).everywhere
        fun _ => Node.not_touches (fun _ _ => id) fun _ _ _ => id
    refine ⟨alone_losing _, fun last further store store' linked => ?_⟩
    rw [interrupted_exec_eq]
    split
    · exact .inr (.inr (.inl linked.2.2))
    · exact mirrors.meets last further store store' linked

end Bond

/-! ## The states of a run -/

/-- The states of a run are in order. -/
theorem runUntil_inOrder {mayFill : Bool} {nodes : List Node}
    (keeps : allEverywhere (Node.keepsOrder mayFill) .ofFunction nodes = true)
    (halts : RunMoment → Bool) (host : Host) (effort : Nat) :
    (runUntil halts host effort nodes).store.InOrder mayFill := by
  let start := Store.initial.record (.started nodes.length)
  have inOrder : start.InOrder mayFill := Store.initial_inOrder.record _
  have mirrors := Evaluator.mirrors_runNodes (Bond.alone_lawful host mayFill) (fun node member =>
    (Bond.alone_interrupted host mayFill halts effort).exec (allEverywhere_iff.mp keeps node member))
    ⟨rfl, Nat.one_pos⟩ 0
  have ends : (runUntil halts host effort nodes).Meets _ :=
    mirrors.meets _ le_rfl start start ⟨rfl, ⟨start.transcript, rfl⟩, inOrder⟩
  cases outcome : runUntil halts host effort nodes with
  | done =>
    rw [outcome] at ends
    rcases ends with lost | cuts | ⟨_, -, _, _, -, -, -, -, inOrder⟩
    · exact lost.elim
    · exact cuts.1.elim
    · exact inOrder
  | stopped =>
    rw [outcome] at ends
    rcases ends with (lost | excused) | cuts | ⟨_, -, _, _, -, -, -, -, inOrder⟩
    · exact lost.elim
    · exact (Bond.not_excused (fun _ _ => id) excused).elim
    · exact cuts.1.elim
    · exact inOrder
  | unfinished store =>
    rw [outcome] at ends
    rcases ends with lost | short | inOrder | cuts | ⟨_, -, _, -, -, -, inOrder⟩
    · exact lost.elim
    · exact short.elim
    · exact inOrder
    · exact cuts.1.elim
    · exact inOrder

/-- All the states of a run are closed, of any program in which no values stand but such as are there before the
run. -/
theorem runUntil_isClosed {nodes : List Node} (given : allEverywhere (Node.keepsOrder true) .ofFunction nodes = true)
    (halts : RunMoment → Bool) (host : Host) (effort : Nat) : (runUntil halts host effort nodes).store.IsClosed :=
  (runUntil_inOrder given halts host effort).closed

/-- A run that is interrupted later comes from where it would have been interrupted sooner. -/
theorem runUntil_leadsTo {picks halts : RunMoment → Bool} (later : picks ≤ halts) (host : Host) (effort : Nat)
    (nodes : List Node) :
    (runUntil halts host effort nodes).store.LeadsTo (runUntil picks host effort nodes).store := by
  have traces := interrupted_traces_all halts host effort
  rcases (traces.runNodes nodes 0).ends (Store.initial.record (.started nodes.length)) with ⟨moment, stops⟩ | passes
  · have stopped : runUntil halts host effort nodes = .unfinished moment.store :=
      stops.first halts le_rfl stops.picked
    rw [stopped]
    exact stops.leads picks later
  · have same : runUntil halts host effort nodes = runUntil picks host effort nodes :=
      (passes.same halts le_rfl).trans (passes.same picks later).symm
    rw [same]
    exact .refl _

/-- In every state of a run of a program that calls no `push` and writes no elements, all arrays and objects
hold values that were there before they were made; so nothing contains itself, and texts, types, quantities
and keys can be found of all values. In every run of every program, the objects of one state are there with
the same entries in all later ones. -/
theorem cells_hold_older_values (host : Host) (effort : Nat) (nodes : List Node) :
    (allEverywhere (Node.keepsOrder false) .ofFunction nodes = true → ∀ halts : RunMoment → Bool,
      let state := (runUntil halts host effort nodes).store
      (∃ earlier, state.IsOrderly earlier) ∧
      (∀ value, state.IsAcyclic value ∧ (state.text? value).isSome ∧ (state.type? value).isSome ∧
        (state.quantity? value).isSome) ∧
      ∀ args, (state.key? args).isSome) ∧
    ∀ picks halts : RunMoment → Bool, picks ≤ halts →
      (runUntil halts host effort nodes).store.KeepsObjects (runUntil picks host effort nodes).store := by
  refine ⟨fun keeps halts => ?_, fun picks halts later => (runUntil_leadsTo later host effort nodes).keepsObjects⟩
  obtain ⟨earlier, orderly⟩ := (runUntil_inOrder keeps halts host effort).orderly rfl
  obtain ⟨views, keys⟩ := Store.isSome_views orderly.isAcyclic
  exact ⟨⟨earlier, orderly⟩, fun value => ⟨orderly.isAcyclic value, views value⟩, keys⟩

/-- An array shared by two others, one of them made by mapping, and an object, before and after an element
is removed. -/
theorem shared_cells_hold_older_values :
    let program : List Node := [
      .declare "array" "inner" (.array [.literal (.number (.int 1))]),
      .declare "array" "outer" (.array [.reference "inner", .reference "inner"]),
      .declare "array" "mapped" (.method (.reference "outer") "map"
        [.arrow ["x"] (.object [("held", .reference "x")])]),
      .method (.reference "inner") "pop" []]
    let halts (moment : RunMoment) : Bool :=
      match moment.node with
      | .method _ "pop" _ => true
      | _ => false
    let before := (runUntil halts default 9 program).store
    let after := (runUntil (fun _ => false) default 9 program).store
    allEverywhere (Node.keepsOrder false) .ofFunction program = true ∧
      before.elements 0 = #[.number (.int 1)] ∧ after.elements 0 = #[] ∧
      before.elements 2 = #[.object 0, .object 1] ∧
      (∃ earlier, before.IsOrderly earlier) ∧ after.IsAcyclic (.array 2) ∧ before.KeepsObjects after := by
  intro program halts before after
  have keeps : allEverywhere (Node.keepsOrder false) .ofFunction program = true := by decide
  have older := cells_hold_older_values default 9 program
  exact ⟨keeps, by decide +kernel, by decide +kernel, by decide +kernel, (older.1 keeps halts).1,
    ((older.1 keeps _).2.1 _).1, older.2 _ halts (never_le halts)⟩

end TreeScript
