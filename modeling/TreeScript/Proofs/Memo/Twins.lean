import TreeScript.Proofs.Conduct.Functions
import TreeScript.Proofs.Memo.Drawings

/-! # A run that remembers and one that does not

In the first run the functions marked pure remember their results, in the second they do not. The
stores of the two runs stay the same but for the numbers of cells: the second run makes cells in calls
that the first one answers from memory. An array or object of the first run then stands for several of the
second. This goes well as long as it cannot be seen that they are shared.

What a function remembers is the result of an earlier call. It is also that of a call with arguments
that are drawn alike, with one exception: a body that compares two of its parameters can tell whether they
are one array or two that are drawn alike. Once such a call was answered from memory nothing more is claimed.
The first run stops where the second need not if the key of a call cannot be written because of an integer in
it, and it comes to a standstill if an array contains itself, since then there is no key.
-/

namespace TreeScript

open Exec

/-! ## Programs -/

/-- Functions marked pure have simple bodies. -/
def Node.pureIsSimple (_ : Site) : Node → Bool
  | function _ params body _ _ isPure => !isPure || allEverywhere (isSimple params) .ofFunction body
  | _ => true

/-- A text that holds only known values, and in which pure functions are simple. -/
structure Node.IsAdmitted (symbols : List Symbol) (site : Site) (node : Node) : Prop where
  uses : node.everywhere (usesOnly symbols) site = true
  pure : node.everywhere pureIsSimple site = true

theorem Node.IsAdmitted.part {symbols : List Symbol} {site : Site} {node : Node}
    (admitted : node.IsAdmitted symbols site) {part : Site × Node} (member : part ∈ node.parts site) :
    part.2.IsAdmitted symbols part.1 where
  uses := (Node.everywhere_iff.mp admitted.uses).2 part member
  pure := (Node.everywhere_iff.mp admitted.pure).2 part member

/-- The functions that admitted texts make. -/
def Callable.IsAdmitted (symbols : List Symbol) : Callable → Prop
  | builtin _ => True
  | closure function => ∀ node ∈ function.body, node.IsAdmitted symbols .ofFunction
  | memoized function _ =>
    (∀ node ∈ function.body, node.IsAdmitted symbols .ofFunction) ∧ function.IsSimple
  | arrow _ body _ => body.IsAdmitted symbols .ofArrow

theorem Callable.isAdmitted_blind (symbols : List Symbol) :
    BlindToCaches (Callable.IsAdmitted symbols) := fun _ admitted => admitted

/-! ## Where the first run may go astray -/

/-- Two parameters can be compared: they are one, or neither two arrays nor two objects. -/
def mayCompare (params : List String) (args : List Value) (name other : String) : Bool :=
  name == other || !(argumentOf params args name).areCells (argumentOf params args other)

/-- The body compares two different parameters which the given arguments make two arrays or two
objects. -/
def Closure.comparesCells (function : Closure) (args : List Value) : Bool :=
  !allEverywhere (Node.comparesOnly (mayCompare function.params args)) .ofFunction function.body

namespace Store

/-- A call was answered from memory though the function can tell the arguments from those that it remembers. -/
def IsMisled (store : Store) : Prop :=
  ∃ hit function cache, store.Answers hit ∧ store.functions[hit.function]? = some (.memoized function cache) ∧
    function.comparesCells hit.args = true

/-- A run caught a failure over an integer that is too long to be written. -/
def CaughtTooLong (store : Store) (host : Host) : Prop :=
  ∃ name, .reported (.caught (.host name (host.tooLong none).message)) ∈ store.transcript

/-- Some array contains itself. -/
def HasCycle (store : Store) : Prop := ∃ value, store.picture? value = none

end Store

/-- At this moment it can be seen what is shared once the given calls are answered from memory: a shared array
is changed, or arrays or objects are compared that may be confused. -/
def RunMoment.Discloses (moment : RunMoment) (hits : MemoHit → Prop) (host : Host) : Prop :=
  ∃ effort, moment.node.Touches (·.Shares hits) Store.Confuses (evaluator effort) host moment.frame moment.store

/-! ## Linked stores -/

/-- The host on which the first run takes place. -/
def Host.remembering (host : Host) : Host := { host with memoizes := true }

/-- The host on which the second run takes place. -/
def Host.forgetting (host : Host) : Host := { host with memoizes := false }

/-- A run that is tried twice: with functions that remember and with functions that do not. One of the
two may be cut short. -/
structure Trial where
  host : Host
  symbols : List Symbol
  /-- The effort that the first run is allowed, if the second must not be cut short before it ends. -/
  limit : Option Nat
  /-- The calls that the first run answers from memory. -/
  hits : MemoHit → Prop

namespace Trial

def left (trial : Trial) : Host := trial.host.remembering

def right (trial : Trial) : Host := trial.host.forgetting

/-- A call that the first run made with the given effort can be made again in the second. -/
def Repeats (trial : Trial) (effort : Nat) : Prop := ∀ limit ∈ trial.limit, effort ≤ limit

/-- The function will answer from memory under the key. -/
def WillAnswer (trial : Trial) (ref : FunctionRef) (key : String) : Prop :=
  ∃ hit, trial.hits hit ∧ hit.function = ref ∧ hit.key = key

/-- Some time before the function was called with arguments of the given key and gave the result. If it will
give the result again, then what can be reached from it is still the same. -/
inductive Remembered (trial : Trial) (link : Link) (store : Store) (ref : FunctionRef) (function : Closure)
    (key : String) (result : Value) : Prop
  | intro {known : Link} {past past' after : Store} {args args' : List Value} {result' : Value} {effort : Nat}
      (within : known ≤ link) (fits : known.Fits past past')
      (names : past.KeepsNames store) (depth : past.depth ≤ store.depth)
      (holds : past.Holds function.scope) (paired : Pairing.value.list.pairs known args args')
      (keyed : past.key? args trial.host.identity = some key) (repeats : trial.Repeats effort)
      (called : (evaluator effort).callClosure function args trial.left past = .done result after)
      (given : link.Pairs result result')
      (kept : trial.WillAnswer ref key → after.KeepsCells (after.Reaches (· = result)) store) :
      Remembered trial link store ref function key result

/-- The functions of the two stores stand under the same numbers. -/
structure Functions (trial : Trial) (link : Link) (store store' : Store) : Prop where
  same : ∀ {ref ref'}, link.functions ref ref' → ref = ref'
  size : store.functions.size = store'.functions.size
  paired : ∀ {ref : FunctionRef} {function}, store.functions[ref]? = some function →
    ∃ function', store'.functions[ref]? = some function' ∧ link.Callables function function'
  admitted : store.EachFunction (Callable.IsAdmitted trial.symbols)
  remembered : ∀ {ref key function result}, store.Remembers ref key function result →
    trial.Remembered link store ref function key result

/-- The calls that were answered are among those expected, and were made with paired arguments. -/
def Expects (trial : Trial) (link : Link) (store : Store) : Prop :=
  ∀ hit, store.Answers hit → trial.hits hit ∧ ∀ value ∈ hit.args, ∃ value', link.Pairs value value'

structure Linked (trial : Trial) (link : Link) (store store' : Store) : Prop where
  cells : link.Cells store.Confuses store store'
  frames : link.Frames store.frames store'.frames
  functions : trial.Functions link store store'
  expected : trial.Expects link store
  symbols : ∀ {symbol}, link.symbols symbol ↔ symbol ∈ trial.symbols
  output : store.output = store'.output
  requests : store.requests = store'.requests

open Classical in
/-- The moments at which it can be seen what is shared. -/
noncomputable def halts (trial : Trial) (moment : RunMoment) : Bool := decide (moment.Discloses trial.hits trial.left)

/-- The first run was misled, it answered a call that it was not expected to, or it went on after a failure over
a key. -/
def IsLost (trial : Trial) (store : Store) : Prop :=
  store.IsMisled ∨ (∃ hit, store.Answers hit ∧ ¬ trial.hits hit) ∨ store.CaughtTooLong trial.left

/-- The two runs. The first is interrupted where it can be seen what is shared. -/
noncomputable def bond (trial : Trial) : Bond where
  left := trial.left
  right := trial.right
  linked := trial.Linked
  lost store := trial.IsLost store ∧ store.EachFunction (Callable.IsAdmitted trial.symbols)
  stuck store := store.HasCycle ∨ ∃ moment, trial.halts moment = true ∧ moment.store = store
  shortLeft := trial.limit.isSome = true
  shortRight := trial.limit = none
  frozen store := store.Shares trial.hits
  confused := Store.Confuses
  excuses cause store := cause = trial.left.tooLong none ∧ store.EachFunction (Callable.IsAdmitted trial.symbols)

variable {trial : Trial} {link wider : Link} {store store' later later' : Store}

theorem Remembered.grow {ref : FunctionRef} {function : Closure} {key : String} {result : Value}
    (remembered : trial.Remembered link store ref function key result) (within : link ≤ wider)
    (names : store.KeepsNames later) (depth : store.depth ≤ later.depth) (goesOn : store.GoesOn trial.hits later)
    (remembers : store.Remembers ref key function result) : trial.Remembered wider later ref function key result := by
  cases remembered with
  | intro earlier fits kept deep holds paired keyed repeats called given cells =>
    refine .intro (earlier.trans within) fits (kept.trans names) (deep.trans depth) holds paired keyed repeats
      called (given.mono within) fun answers => ?_
    refine (cells answers).trans goesOn.cells fun value reaches => (reaches.keep (cells answers)).mono ?_
    rintro _ rfl
    obtain ⟨hit, expected, rfl, rfl⟩ := answers
    exact .result expected remembers

namespace Functions

variable (functions : trial.Functions link store store')

include functions

/-- Changes that leave the functions as they are do not matter. -/
theorem grow (within : link ≤ wider)
    (known : ∀ {ref ref'}, wider.functions ref ref' → link.functions ref ref')
    (unchanged : later.functions = store.functions) (unchanged' : later'.functions = store'.functions)
    (depth : store.depth ≤ later.depth) (goesOn : store.GoesOn trial.hits later) :
    trial.Functions wider later later' where
  same paired := functions.same (known paired)
  size := by
    rw [unchanged, unchanged']
    exact functions.size
  paired found := by
    rw [unchanged] at found
    obtain ⟨function', found', paired⟩ := functions.paired found
    exact ⟨function', unchanged' ▸ found', paired.mono within⟩
  admitted ref function found := functions.admitted ref function (unchanged ▸ found)
  remembered := by
    rintro ref key function result ⟨cache, found, entry⟩
    have remembers : store.Remembers ref key function result := ⟨cache, unchanged ▸ found, entry⟩
    exact (functions.remembered remembers).grow within (.of_eq unchanged) depth goesOn remembers

/-- Add a function, which remembers nothing yet. -/
theorem addFunction {function function' : Callable} (admitted : function.IsAdmitted trial.symbols)
    (paired : link.Callables function function')
    (empty : ∀ closure cache, function = .memoized closure cache → cache = [])
    (goesOn : store.GoesOn trial.hits (store.addFunction function).2) :
    trial.Functions (link.addFunction store.functions.size store'.functions.size)
      (store.addFunction function).2 (store'.addFunction function').2 where
  same := by
    rintro ref ref' (known | ⟨rfl, rfl⟩)
    · exact functions.same known
    · exact functions.size
  size := by
    simp [Store.addFunction, functions.size]
  paired {ref known} found := by
    simp only [Store.addFunction, Array.getElem?_push, ← functions.size] at found ⊢
    split at found
    · next new =>
      cases found
      rw [if_pos new]
      exact ⟨function', rfl, paired.mono (Link.le_addFunction _ _)⟩
    · next old =>
      obtain ⟨known', found', pairedHere⟩ := functions.paired found
      rw [if_neg old]
      exact ⟨known', found', pairedHere.mono (Link.le_addFunction _ _)⟩
  admitted := functions.admitted.addFunction admitted
  remembered := by
    rintro ref key closure result ⟨cache, found, entry⟩
    simp only [Store.addFunction, Array.getElem?_push] at found
    split at found
    · cases found
      cases empty closure cache rfl
      cases entry
    · have remembers : store.Remembers ref key closure result := ⟨cache, found, entry⟩
      exact (functions.remembered remembers).grow (link.le_addFunction _ _) (.addFunction _ _) (Nat.le_refl _) goesOn
        remembers

/-- Let a function remember a result that it gave. -/
theorem remember {ref : FunctionRef} {function : Closure} {cache : Table Value} {key : String}
    {result : Value} (found : store.functions[ref]? = some (.memoized function cache))
    (goesOn : store.GoesOn trial.hits (store.remember ref key result))
    (entry : trial.Remembered link (store.remember ref key result) ref function key result) :
    trial.Functions link (store.remember ref key result) store' where
  same := functions.same
  size := by simp [Store.remember, functions.size]
  paired {other known} foundHere := by
    simp only [Store.remember, Array.getElem?_modify] at foundHere
    split at foundHere
    · next same =>
      subst same
      rw [found] at foundHere
      cases foundHere
      obtain ⟨function', found', paired⟩ := functions.paired found
      refine ⟨function', found', ?_⟩
      cases paired with
      | memoized function cache scopes => exact .memoized function _ scopes
    · exact functions.paired foundHere
  admitted := functions.admitted.remember (Callable.isAdmitted_blind _) ref key result
  remembered := by
    rintro other otherKey closure otherResult ⟨otherCache, foundHere, entryHere⟩
    simp only [Store.remember, Array.getElem?_modify] at foundHere
    have before {otherCache : Table Value}
        (foundHere : store.functions[other]? = some (.memoized closure otherCache))
        (entryHere : otherCache.get? otherKey = some otherResult) :=
      (functions.remembered ⟨otherCache, foundHere, entryHere⟩).grow le_rfl (.remember store ref key result)
        (Nat.le_refl _) goesOn ⟨otherCache, foundHere, entryHere⟩
    split at foundHere
    · next same =>
      subst same
      rw [found] at foundHere
      cases foundHere
      by_cases keys : otherKey = key
      · subst keys
        cases (Table.get?_put_self cache otherKey result).symm.trans entryHere
        exact entry
      · rw [Table.get?_put_of_ne _ _ keys] at entryHere
        exact before found entryHere
    · exact before foundHere entryHere

end Functions

theorem Expects.grow (expects : trial.Expects link store) (within : link ≤ wider)
    (answers : ∀ hit, later.Answers hit → store.Answers hit) : trial.Expects wider later := by
  intro hit answered
  obtain ⟨expected, paired⟩ := expects hit (answers hit answered)
  exact ⟨expected, fun value member => (paired value member).imp fun _ here => here.mono within⟩

/-! ## Laws -/

namespace Linked

variable (linked : trial.Linked link store store')

include linked

theorem tellsSymbols
    (distinct : ∀ symbol ∈ trial.symbols, ∀ other ∈ trial.symbols, symbol.id = other.id → symbol = other) :
    link.TellsSymbols := fun known otherKnown ids =>
  distinct _ (linked.symbols.mp known) _ (linked.symbols.mp otherKnown) ids

/-- What is shared is paired. -/
theorem paired_of_shares {value : Value} (shares : store.Shares trial.hits value) :
    ∃ value', link.Pairs value value' := by
  refine shares.paired linked.cells.toFits fun value gives => ?_
  cases gives with
  | result _ remembers =>
    cases linked.functions.remembered remembers with
    | intro _ _ _ _ _ _ _ _ _ given _ => exact ⟨_, given⟩
  | argument given _ _ member => exact (linked.expected _ given).2 value member

/-- What was confused is shared. -/
theorem shares_of_confuses {value other : Value} (confuses : store.Confuses value other) :
    store.Shares trial.hits value := confuses.2.1.mono fun hit answered => (linked.expected hit answered).1

/-- What is confused stays so. -/
theorem confuses (goesOn : store.GoesOn trial.hits later) {value other : Value}
    (confuses : store.Confuses value other) : later.Confuses value other :=
  have stays {value : Value} (shares : store.Shares store.Answers value) : later.Shares later.Answers value :=
    goesOn.shares (fun hit answered => (linked.expected hit answered).1) shares
  ⟨confuses.1, stays confuses.2.1, stays confuses.2.2⟩

/-- New cells do not concern what is shared. -/
theorem goesOn_of_extends (more : store.Extends later) (functions : later.functions = store.functions)
    (transcript : later.transcript = store.transcript) : store.GoesOn trial.hits later where
  remembers := by
    rintro ref key function result ⟨cache, found, entry⟩
    exact ⟨cache, functions ▸ found, entry⟩
  answers known := by
    rw [Store.Answers, transcript]
    exact known
  cells := more.keepsCells linked.cells.toFits fun _ => linked.paired_of_shares

/-- Changes to the transcript and the number of requests, in which no call is answered from memory. -/
theorem of_eq (frames : later.frames = store.frames) (arrays : later.arrays = store.arrays)
    (objects : later.objects = store.objects) (functions : later.functions = store.functions)
    (transcript : ∀ entry ∈ store.transcript, entry ∈ later.transcript)
    (answers : ∀ hit, later.Answers hit → store.Answers hit)
    (frames' : later'.frames = store'.frames) (arrays' : later'.arrays = store'.arrays)
    (objects' : later'.objects = store'.objects) (functions' : later'.functions = store'.functions)
    (output : later.output = later'.output) (requests : later.requests = later'.requests) :
    trial.Linked link later later' := by
  have goesOn : store.GoesOn trial.hits later := Store.goesOn_of_eq functions arrays objects transcript
  exact {
    cells := linked.cells.keep (linked.cells.toFits.of_eq arrays objects (.of_eq functions) arrays' objects'
      (.of_eq functions')) id id (linked.confuses goesOn)
    frames := by
      rw [frames, frames']
      exact linked.frames
    functions := linked.functions.grow le_rfl id functions functions' (Store.Extends.of_eq arrays objects).depth_le goesOn
    expected := linked.expected.grow le_rfl answers
    symbols := linked.symbols
    output := output
    requests := requests }

theorem record {event : Event} (plain : event.isMemoHit = false) (event' : Event) :
    trial.Linked link (store.record event) (store'.record event') := by
  refine linked.of_eq rfl rfl rfl rfl (fun _ member => Array.mem_push_of_mem _ member) (fun hit answered => ?_)
    rfl rfl rfl rfl ?_ linked.requests
  · rcases Array.mem_push.mp answered with known | same
    · exact known
    · cases same
      cases plain
  · rw [Store.output_record, Store.output_record, linked.output]

theorem write (text : String) : trial.Linked link (store.write text) (store'.write text) := by
  refine linked.of_eq rfl rfl rfl rfl (fun _ member => Array.mem_push_of_mem _ member) (fun hit answered => ?_)
    rfl rfl rfl rfl ?_ linked.requests
  · exact (Array.mem_push.mp answered).resolve_right nofun
  · rw [Store.output_write, Store.output_write, linked.output]

theorem addArray {elements others : Array Value} (paired : Pairing.array.pairs link elements others) :
    trial.Linked (link.addArray store.arrays.size store'.arrays.size) (store.addArray elements).2
      (store'.addArray others).2 := by
  have more := Store.Extends.addArray store elements
  have goesOn := linked.goesOn_of_extends more rfl rfl
  exact { linked with
    cells := linked.cells.addArray paired (linked.confuses goesOn)
    frames := linked.frames.mono (Link.le_addArray _ _) id
    functions := linked.functions.grow (Link.le_addArray _ _) id rfl rfl more.depth_le goesOn
    expected := linked.expected.grow (Link.le_addArray _ _) fun _ => id }

theorem addObject {entries others : Table Value} (distinct : entries.keys.Nodup)
    (otherDistinct : others.keys.Nodup) (paired : Pairing.entries.pairs link entries others) :
    trial.Linked (link.addObject store.objects.size store'.objects.size) (store.addObject entries).2
      (store'.addObject others).2 := by
  have more := Store.Extends.addObject store entries
  have goesOn := linked.goesOn_of_extends more rfl rfl
  exact { linked with
    cells := linked.cells.addObject distinct otherDistinct paired (linked.confuses goesOn)
    frames := linked.frames.mono (Link.le_addObject _ _) id
    functions := linked.functions.grow (Link.le_addObject _ _) id rfl rfl more.depth_le goesOn
    expected := linked.expected.grow (Link.le_addObject _ _) fun _ => id }

theorem updateArray {ref ref' : ArrayRef} {change change' : Array Value → Array Value}
    (paired : link.arrays ref ref') (unshared : ¬ store.Shares trial.hits (.array ref))
    (changes : ∀ elements others, Pairing.array.pairs link elements others →
      Pairing.array.pairs link (change elements) (change' others)) :
    trial.Linked link (store.updateArray ref change) (store'.updateArray ref' change') := by
  have goesOn : store.GoesOn trial.hits (store.updateArray ref change) :=
    ⟨id, id, Store.keepsCells_updateArray unshared change⟩
  have unique {other other' : ArrayRef} (known : link.arrays other other') : ref = other ↔ ref' = other' :=
    (linked.cells.arraysUnique paired known).resolve_right fun confuses =>
      unshared (linked.shares_of_confuses confuses)
  exact { linked with
    cells := linked.cells.keep (linked.cells.toFits.updateArray unique changes) id id (linked.confuses goesOn)
    functions := linked.functions.grow le_rfl id rfl rfl (by simp [Store.depth, Store.updateArray]) goesOn }

theorem define {frame frame' : FrameRef} (frames : link.frames frame frame') (name : String)
    {value value' : Value} (paired : link.Pairs value value') :
    trial.Linked link (store.define frame name value) (store'.define frame' name value') := by
  have goesOn : store.GoesOn trial.hits (store.define frame name value) := linked.goesOn_of_extends (.of_eq rfl rfl) rfl rfl
  exact { linked with
    cells := linked.cells.keep (linked.cells.toFits.of_eq rfl rfl (.of_eq rfl) rfl rfl (.of_eq rfl)) id id
      (linked.confuses goesOn)
    frames := linked.frames.define frames name paired
    functions := linked.functions.grow le_rfl id rfl rfl (Nat.le_refl _) goesOn }

theorem addFrame {parent parent' : FrameRef} (frames : link.frames parent parent') (label : String) :
    trial.Linked (link.addFrame store.frames.size store'.frames.size) (store.addFrame parent label).2
      (store'.addFrame parent' label).2 := by
  have goesOn : store.GoesOn trial.hits (store.addFrame parent label).2 := linked.goesOn_of_extends (.of_eq rfl rfl) rfl rfl
  exact { linked with
    cells := linked.cells.keep linked.cells.toFits.addFrame id id (linked.confuses goesOn)
    frames := linked.frames.addFrame frames label
    functions := linked.functions.grow (Link.le_addFrame _ _) id rfl rfl (Nat.le_refl _) goesOn
    expected := linked.expected.grow (Link.le_addFrame _ _) fun _ => id }

theorem addFunction {function function' : Callable} (admitted : function.IsAdmitted trial.symbols)
    (paired : link.Callables function function')
    (empty : ∀ closure cache, function = .memoized closure cache → cache = []) :
    trial.Linked (link.addFunction store.functions.size store'.functions.size)
      (store.addFunction function).2 (store'.addFunction function').2 := by
  have goesOn : store.GoesOn trial.hits (store.addFunction function).2 := by
    refine ⟨?_, id, .of_eq rfl rfl⟩
    rintro ref key closure result ⟨cache, found, entry⟩
    have inside : ref < store.functions.size := (Array.getElem?_eq_some_iff.mp found).1
    exact ⟨cache, by simp [Store.addFunction, Array.getElem?_push, Nat.ne_of_lt inside, found], entry⟩
  exact { linked with
    cells := linked.cells.keep (linked.cells.toFits.addFunction paired.name_eq) id id (linked.confuses goesOn)
    frames := linked.frames.mono (Link.le_addFunction _ _) id
    functions := linked.functions.addFunction admitted paired empty goesOn
    expected := linked.expected.grow (Link.le_addFunction _ _) fun _ => id }

theorem remember {ref : FunctionRef} {function : Closure} {cache : Table Value} {key : String}
    {result : Value} (found : store.functions[ref]? = some (.memoized function cache))
    (absent : cache.get? key = none)
    (entry : trial.Remembered link (store.remember ref key result) ref function key result) :
    trial.Linked link (store.remember ref key result) store' := by
  have goesOn : store.GoesOn trial.hits (store.remember ref key result) :=
    ⟨fun remembers => remembers.remember found absent result, id, .of_eq rfl rfl⟩
  exact { linked with
    cells := linked.cells.keep (linked.cells.toFits.of_eq rfl rfl (.remember _ _ _ _) rfl rfl (.of_eq rfl)) id id
      (linked.confuses goesOn)
    functions := linked.functions.remember found goesOn entry }

/-- Linked stores are the same, as far as they are linked. -/
theorem toMatches : link.Matches store store' where
  fits := linked.cells.toFits
  frames := linked.frames
  functions paired := by
    obtain ⟨name, named, -⟩ := linked.cells.functions paired
    obtain ⟨function, found, -⟩ := Option.map_eq_some_iff.mp named
    obtain ⟨function', found', callables⟩ := linked.functions.paired found
    cases linked.functions.same paired
    exact ⟨rfl, function, function', found, found', callables⟩

end Linked

/-! ## Runs that are lost -/

theorem lost_of_grown (lost : trial.bond.lost store) (functions : later.functions = store.functions)
    (transcript : ∀ entry ∈ store.transcript, entry ∈ later.transcript) : trial.bond.lost later := by
  obtain ⟨lost, admitted⟩ := lost
  refine ⟨?_, fun other callable known => admitted other callable (functions ▸ known)⟩
  rcases lost with ⟨hit, function, cache, answered, found, compares⟩ | ⟨hit, answered, unexpected⟩ | ⟨name, caught⟩
  · exact .inl ⟨hit, function, cache, transcript _ answered, functions ▸ found, compares⟩
  · exact .inr (.inl ⟨hit, transcript _ answered, unexpected⟩)
  · exact .inr (.inr ⟨name, transcript _ caught⟩)

theorem lost_record (lost : trial.bond.lost store) (event : Event) : trial.bond.lost (store.record event) :=
  lost_of_grown lost rfl fun _ member => Array.mem_push_of_mem _ member

theorem lawful (trial : Trial) : trial.bond.Lawful where
  toReading := .of_fits (fun linked => linked.cells.toFits) (fun {_ value} none => .inl ⟨value, none⟩) rfl
  addArray linked paired := ⟨_, Link.le_addArray _ _, .inr ⟨rfl, rfl⟩, linked.addArray paired⟩
  addObject linked distinct otherDistinct paired :=
    ⟨_, Link.le_addObject _ _, .inr ⟨rfl, rfl⟩, linked.addObject distinct otherDistinct paired⟩
  sturdy := {
    addArray := id
    addObject := fun lost _ => lost
    updateArray := id
    fetchStarted := fun lost => lost_record lost _
    fetchFailed := fun lost => lost_record lost _
    write := fun lost => lost_of_grown lost rfl fun _ member => Array.mem_push_of_mem _ member
    request := id }
  arrays linked first second told := (linked.cells.arraysUnique first second).resolve_right told
  objects linked first second told := (linked.cells.objectsUnique first second).resolve_right told
  functions linked first second := by
    rw [linked.functions.same first, linked.functions.same second]
  updateArray linked paired unshared _ changes := linked.updateArray paired unshared changes
  record linked plain := linked.record plain _
  write linked := linked.write _
  requests linked := linked.requests
  request linked := linked.of_eq rfl rfl rfl rfl (fun _ => id) (fun _ => id) rfl rfl rfl rfl linked.output
    (congrArg (· + 1) linked.requests)
  hosts := rfl
  recordLost lost := lost_record lost _
  lookup linked frames := linked.frames.lookup? frames _
  define linked frames paired := linked.define frames _ paired
  addFrame linked frames := ⟨_, Link.le_addFrame _ _, .inr ⟨rfl, rfl⟩, linked.addFrame frames _⟩
  defineLost lost := lost
  addFrameLost lost := lost
  caughtLost {store cause} excused := by
    cases cause with
    | host name message =>
      obtain ⟨_, ⟨rfl, admitted⟩, rfl⟩ := excused
      exact ⟨.inr (.inr ⟨name, Array.mem_push_self⟩), admitted⟩
    | _ => exact excused.elim
  excusesRecord excused := excused

end Trial

end TreeScript
