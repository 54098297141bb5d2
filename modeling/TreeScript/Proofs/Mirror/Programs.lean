import TreeScript.Program.Run
import TreeScript.Proofs.Mirror.Stores

/-! # Programs in two runs

A program is mirrored by itself if its nodes are. What is seen of a run at its end are the text that was
printed and the values that are bound at the top level.
-/

namespace TreeScript

open Exec

/-! ## Execution -/

/-- How a top-level node stops the program. -/
def Node.stopProgram (node : Node) (index : Nat) : Stop → Exec Unit
  | .signal signal => fail (.straySignal signal.keyword (.topLevel index node.kindName))
  | .failure cause => do
    record (.nodeFailed index cause)
    fail cause
  | .fault cause => crash cause

/-- After a top-level node that stops nothing more is executed. -/
theorem Node.execTopLevel_bind (node : Node) (effort index : Nat) (rest : Exec Unit) :
    (node.execTopLevel effort index >>= fun _ => rest) =
      settle (node.exec effort Store.root) (fun _ => rest) (node.stopProgram index) := by
  funext host store
  change andThen (node.execTopLevel effort index) _ host store = _
  unfold andThen execTopLevel settle
  cases node.exec effort Store.root host store with
  | stopped reason after => cases reason <;> rfl
  | _ => rfl

namespace Evaluator

/-- Execute top-level nodes in a given way, where `index` is the number of the first one. -/
def runNodes (ev : Evaluator) (index : Nat) : List Node → Exec Unit
  | [] => Exec.done ()
  | node :: rest => do
    Exec.record (.nodeStarted index node.kindName)
    settle (ev.exec node Store.root) (fun _ => ev.runNodes (index + 1) rest) (node.stopProgram index)

/-- The outcome of a program whose nodes are executed in a given way. -/
def runProgram (ev : Evaluator) (host : Host) (nodes : List Node) : Outcome Unit :=
  ev.runNodes 0 nodes host (Store.initial.record (.started nodes.length))

end Evaluator

theorem execAll_eq_runNodes (effort index : Nat) (nodes : List Node) :
    execAll effort index nodes = (evaluator effort).runNodes index nodes := by
  induction nodes generalizing index with
  | nil => rfl
  | cons node rest ih => rw [execAll, Evaluator.runNodes, node.execTopLevel_bind, ih, Node.exec]

theorem runProgram_eq (host : Host) (effort : Nat) (nodes : List Node) :
    runProgram host effort nodes = (evaluator effort).runProgram host nodes := by
  rw [Evaluator.runProgram, ← execAll_eq_runNodes]
  rfl

/-- A program never stops with a signal. -/
theorem Evaluator.runNodes_ne_signal (ev : Evaluator) {host : Host} (nodes : List Node) (index : Nat)
    (store : Store) (signal : Signal) (after : Store) :
    ev.runNodes index nodes host store ≠ .stopped (.signal signal) after := by
  induction nodes generalizing index store with
  | nil => exact nofun
  | cons node rest ih =>
    change settle (ev.exec node Store.root) _ _ host (store.record _) ≠ _
    unfold settle
    cases ev.exec node Store.root host (store.record _) with
    | done value after => exact ih (index + 1) after
    | stopped reason after => cases reason <;> exact nofun
    | unfinished after => exact nofun

section Execution

variable {bond : Bond} {link : Link} {ev ev' : Evaluator}

theorem mirrors_record (lawful : bond.Lawful) {event : Event} (plain : event.isMemoHit = false) (event' : Event) :
    (record event).Mirrors bond link (Pairing.same).pairs (record event') :=
  mirrors_change (fun _ => lawful.recordLost) fun _ _ _ _ linked => lawful.record linked plain

/-- Functions that remember the same mirror each other where both runs find the same keys. -/
theorem Evaluator.mirrors_callMemoized (lawful : bond.Lawful) {ref : FunctionRef} {function function' : Closure}
    {cache : Table Value} {args : List Value}
    (cells : ∀ {link store store'}, bond.linked link store store' → store.SameCells store')
    (hits : ∀ {link store store' hit hit'}, bond.linked link store store' →
      bond.linked link (store.record (.memoHit hit)) (store'.record (.memoHit hit')))
    (known : ∀ entry ∈ cache, link.Pairs entry.2 entry.2)
    (call : (ev.callClosure function args).Mirrors bond link Pairing.value.pairs (ev'.callClosure function' args))
    (remember : ∀ {link key result result'}, link.Pairs result result' → (change (·.remember ref key result)).Mirrors
      bond link (Pairing.same).pairs (change (·.remember ref key result'))) :
    (ev.callMemoized ref function cache args).Mirrors bond link Pairing.value.pairs
      (ev'.callMemoized ref function' cache args) := by
  have identities : bond.right.identity = bond.left.identity := by rw [lawful.hosts]
  have keys : (keyOf args).Mirrors bond link (Pairing.same).pairs (keyOf args) := by
    refine mirrors_spell lawful.sameLimit (fun _ _ store store' linked key keyed => ⟨?_, ?_⟩)
      fun _ _ store store' linked none => .inr ?_
    · rw [identities, (cells linked).key?_eq]
      exact keyed
    · have integers : store'.integers true = store.integers true := funext ((cells linked).integers_eq true)
      rw [integers]
    · rw [identities, (cells linked).key?_eq]
      exact none
  refine keys.bind_same fun wider within key => ?_
  cases entry : cache.get? key with
  | some result =>
    have recorded (hit hit' : MemoHit) : (record (.memoHit hit)).Mirrors bond wider (Pairing.same).pairs
        (record (.memoHit hit')) := mirrors_change (fun _ => lawful.recordLost) fun _ _ _ _ => hits
    refine (recorded _ _).bind fun _ further _ _ _ => ?_
    exact mirrors_pure ((known _ (Table.mem_of_get?_eq_some entry)).mono (within.trans further))
  | none =>
    refine (call.mono within).bind fun last _ result result' paired => ?_
    exact (remember paired).bind fun _ after _ _ _ => mirrors_pure (paired.mono after)

/-- The two runs report a stop of a top-level node in the same words. -/
theorem Node.mirrors_stopProgram (lawful : bond.Lawful) (node node' : Node) (index index' : Nat)
    {reason reason' : Stop} (paired : link.Stops reason reason') :
    (node.stopProgram index reason).Mirrors bond link (Pairing.same).pairs
      (node'.stopProgram index' reason') := by
  cases paired with
  | failure alike => exact (mirrors_record lawful rfl _).bind fun _ _ _ _ _ => mirrors_fail alike
  | fault cause => exact mirrors_crash cause
  | returned | broken | continued => exact mirrors_fail ⟨rfl, rfl, rfl⟩

/-- A run that stops alone stays alone. -/
theorem Node.meets_stopProgram (lawful : bond.Lawful) (node : Node) (index : Nat) {reason : Stop} {store : Store}
    (excused : bond.Excused reason store) : (node.stopProgram index reason bond.left store).Meets bond.solitude := by
  cases reason with
  | fault cause => exact .inr excused
  | signal signal => exact excused.elim
  | failure cause =>
    cases cause with
    | host =>
      obtain ⟨fault, excused, message⟩ := excused
      exact .inr ⟨fault, lawful.excusesRecord excused, message⟩
    | _ => exact excused.elim

theorem Evaluator.mirrors_runNodes (lawful : bond.Lawful) {nodes : List Node}
    (exec : ∀ node ∈ nodes, MirrorsNode bond link ev ev' node)
    (frames : link.frames Store.root Store.root) (index : Nat) :
    (ev.runNodes index nodes).Mirrors bond link (Pairing.same).pairs (ev'.runNodes index nodes) := by
  induction nodes generalizing link index with
  | nil => exact mirrors_pure rfl
  | cons node rest ih =>
    obtain ⟨first, others⟩ := List.forall_mem_cons.mp exec
    refine (mirrors_record lawful rfl _).bind fun wider within _ _ _ => ?_
    refine ((first.mono within).here (within.frames frames)).settle
      (fun _ _ => node.meets_stopProgram lawful index) (fun last further _ _ _ => ?_) ?_
    · have after := within.trans further
      exact ih (fun node member => (others node member).mono after) (after.frames frames) (index + 1)
    · exact fun _ _ _ _ stops => node.mirrors_stopProgram lawful node index index stops

end Execution

/-! ## What is seen at the end -/

/-- The link between two runs at their start. -/
def Link.start (symbols : Symbol → Prop) : Link where
  frames frame frame' := frame = Store.root ∧ frame' = Store.root
  arrays _ _ := False
  objects _ _ := False
  functions ref ref' := ref = ref' ∧ ref < Store.initial.functions.size
  symbols := symbols

/-- Two runs printed the same and ended with the same values at the top level. -/
structure Link.Shows (link : Link) (store store' : Store) : Prop extends link.Matches store store' where
  output : store.output = store'.output
  bindings : Pairing.entries.pairs link store.bindings store'.bindings

/-- Two runs ended in the same way, with the same to be seen. -/
inductive Outcome.EndsLike : Outcome Unit → Outcome Unit → Prop
  | done {store store' : Store} (link : Link) (shows : link.Shows store store') :
      EndsLike (.done () store) (.done () store')
  | stopped {reason reason' : Stop} {store store' : Store} (link : Link)
      (reasons : link.Stops reason reason') (shows : link.Shows store store') :
      EndsLike (.stopped reason store) (.stopped reason' store')

namespace Link

variable {link : Link} {store store' : Store}

theorem builtinRef_lt (function : Builtin) : Store.builtinRef function < Store.initial.functions.size := by
  have listed : function ∈ Builtin.all := by cases function <;> decide
  simpa [Store.builtinRef, Store.initial] using List.idxOf_lt_length_of_mem listed

theorem pairs_builtinBindings (symbols : Symbol → Prop) :
    Pairing.entries.pairs (start symbols) Store.builtinBindings Store.builtinBindings := by
  refine List.forall₂_same.mpr fun entry member => ?_
  obtain ⟨function, -, rfl⟩ := List.mem_map.mp member
  exact ⟨rfl, .function ⟨rfl, builtinRef_lt function⟩⟩

theorem start_fits (symbols : Symbol → Prop) : (start symbols).Fits .initial .initial where
  arrays none := none.elim
  elements none := none.elim
  objects none := none.elim
  entries none := none.elim
  distinct := by
    refine ⟨?_, ?_⟩ <;> exact fun ref => by simp [Store.entries, Store.initial, Table.keys]
  functions := by
    rintro ref _ ⟨rfl, inside⟩
    have found : Store.initial.functions[ref]? = some _ := Array.getElem?_eq_getElem inside
    exact ⟨_, congrArg _ found, congrArg _ found⟩
  depth := Nat.le_refl _

theorem start_frames (symbols : Symbol → Prop) :
    (start symbols).Frames Store.initial.frames Store.initial.frames where
  unique := by
    rintro _ _ _ _ ⟨rfl, rfl⟩ ⟨rfl, rfl⟩
    exact Iff.rfl
  found := by
    rintro _ _ ⟨rfl, rfl⟩
    exact ⟨_, _, rfl, rfl, .nil, pairs_builtinBindings symbols⟩

/-- Built-in functions have the same numbers in both runs, so they are left out of both. -/
theorem Matches.bindings (same : link.Matches store store') (frames : link.frames Store.root Store.root) :
    Pairing.entries.pairs link store.bindings store'.bindings := by
  obtain ⟨inner, inner', found, found', -, bindings⟩ := same.frames.found frames
  unfold Store.bindings
  rw [found, found']
  have builtin {value value' : Value} (paired : link.Pairs value value') (ref : FunctionRef) :
      (Value.function ref == value) = (Value.function ref == value') := by
    cases paired with
    | function paired => rw [(same.functions paired).1]
    | _ => rfl
  refine List.rel_filter ?_ bindings
  rintro ⟨name, value⟩ ⟨name', value'⟩ ⟨names, values⟩
  cases (names : name = name')
  simp only [Store.builtinBindings, List.any_map, Function.comp_def, builtin values]

end Link

end TreeScript
