import TreeScript.Proofs.Memo.PureBodies

/-! # What callers share

A function that remembers an array or an object gives the same one to all the callers that it answers from
memory. Whatever can be reached from it is shared then, and so is what can be reached from the arguments of such
a call: they are drawn like those of the earlier call, which the result may hold. It can be seen that values
are shared only by changing one of them, or by comparing them with each other.
-/

namespace TreeScript

open Exec

variable {α β : Type}

/-! ## Reachable values -/

namespace Store

/-- What can be reached from some values through elements and members. -/
inductive Reaches (store : Store) (roots : Value → Prop) : Value → Prop
  | root {value : Value} (here : roots value) : store.Reaches roots value
  | element {ref : ArrayRef} {value : Value} (array : store.Reaches roots (.array ref))
      (member : value ∈ store.elements ref) : store.Reaches roots value
  | entry {ref : ObjectRef} {name : String} {value : Value} (object : store.Reaches roots (.object ref))
      (member : (store.entries ref).get? name = some value) : store.Reaches roots value

/-- A value has the same contents in two stores. -/
def SameAt (store later : Store) : Value → Prop
  | .array ref => later.elements ref = store.elements ref
  | .object ref => later.entries ref = store.entries ref
  | _ => True

/-- No cell goes away, and some values keep their contents. -/
structure KeepsCells (kept : Value → Prop) (store later : Store) : Prop where
  arrays : store.arrays.size ≤ later.arrays.size
  objects : store.objects.size ≤ later.objects.size
  same : ∀ value, kept value → store.SameAt later value

variable {store store' later last : Store} {roots more kept : Value → Prop} {value : Value} {link : Link}

theorem Reaches.mono (reaches : store.Reaches roots value) (within : ∀ value, roots value → more value) :
    store.Reaches more value := by
  induction reaches with
  | root here => exact .root (within _ here)
  | element _ member ih => exact .element ih member
  | entry _ member ih => exact .entry ih member

/-- What is reached is still reached while it is kept. -/
theorem Reaches.keep (reaches : store.Reaches roots value) (keeps : store.KeepsCells (store.Reaches roots) later) :
    later.Reaches roots value := by
  induction reaches with
  | root here => exact .root here
  | @element ref _ array member ih =>
    have same : later.elements ref = store.elements ref := keeps.same _ array
    exact .element ih (same ▸ member)
  | @entry ref _ _ object member ih =>
    have same : later.entries ref = store.entries ref := keeps.same _ object
    exact .entry ih (same ▸ member)

/-- What is reached from paired values is paired. -/
theorem Reaches.paired (reaches : store.Reaches roots value) (fits : link.Fits store store')
    (paired : ∀ value, roots value → ∃ value', link.Pairs value value') : ∃ value', link.Pairs value value' := by
  induction reaches with
  | root here => exact paired _ here
  | element _ member ih =>
    obtain ⟨_, here⟩ := ih
    cases here with
    | array here =>
      obtain ⟨index, inside, rfl⟩ := List.getElem_of_mem (Array.mem_toList_iff.mpr member)
      exact ⟨_, (fits.elements here).get inside ((fits.elements here).length_eq ▸ inside)⟩
  | @entry ref name value _ member ih =>
    obtain ⟨_, here⟩ := ih
    cases here with
    | @object _ ref' here =>
      have entries := fits.entries here name
      rw [member] at entries
      generalize (store'.entries ref').get? name = found at entries
      cases entries with
      | some paired => exact ⟨_, paired⟩

theorem SameAt.trans (same : store.SameAt later value) (further : later.SameAt last value) :
    store.SameAt last value := by
  cases value with
  | array | object => exact Eq.trans further same
  | _ => trivial

theorem KeepsCells.trans (keeps : store.KeepsCells kept later) (further : later.KeepsCells more last)
    (within : ∀ value, kept value → more value) : store.KeepsCells kept last where
  arrays := keeps.arrays.trans further.arrays
  objects := keeps.objects.trans further.objects
  same value here := (keeps.same value here).trans (further.same value (within value here))

theorem KeepsCells.of_eq (arrays : later.arrays = store.arrays) (objects : later.objects = store.objects) :
    store.KeepsCells kept later := by
  refine ⟨Nat.le_of_eq (congrArg _ arrays.symm), Nat.le_of_eq (congrArg _ objects.symm), fun value _ => ?_⟩
  cases value with
  | array ref => exact congrArg (·.getD ref #[]) arrays
  | object ref => exact congrArg (·.getD ref []) objects
  | _ => trivial

/-- Cells that are there keep their contents while others are added. -/
theorem Extends.keepsCells (more : store.Extends later) (fits : link.Fits store store')
    (paired : ∀ value, kept value → ∃ value', link.Pairs value value') : store.KeepsCells kept later := by
  refine ⟨more.arrays_le, more.objects_le, fun value keeps => ?_⟩
  obtain ⟨_, here⟩ := paired value keeps
  cases here with
  | array here => exact more.elements_eq (fits.arrays here).1
  | object here => exact more.entries_eq (fits.objects here).1
  | _ => trivial

/-- All arrays but the one that is changed are kept. -/
theorem keepsCells_updateArray {ref : ArrayRef} (unkept : ¬ kept (.array ref)) (change : Array Value → Array Value) :
    store.KeepsCells kept (store.updateArray ref change) := by
  refine ⟨by simp [updateArray], Nat.le_refl _, fun value here => ?_⟩
  cases value with
  | array other =>
    have differ : ref ≠ other := fun same => unkept (same ▸ here)
    simp [SameAt, elements, updateArray, Array.getElem?_modify, differ]
  | object => exact rfl
  | _ => trivial

end Store

/-! ## What is handed out again -/

/-- Two arrays or two objects. -/
def Value.areCells : Value → Value → Bool
  | array _, array _ | object _, object _ => true
  | _, _ => false

namespace Store

/-- What a function remembers under a key. -/
def Remembers (store : Store) (ref : FunctionRef) (key : String) (function : Closure) (result : Value) : Prop :=
  ∃ cache, store.functions[ref]? = some (.memoized function cache) ∧ cache.get? key = some result

/-- A call was answered from memory. -/
def Answers (store : Store) (hit : MemoHit) : Prop := .reported (.memoHit hit) ∈ store.transcript

/-- What is given again: the results that functions remember for some calls, and the arguments of the calls that
were answered with an array or an object. -/
inductive GivesAgain (store : Store) (hits : MemoHit → Prop) : Value → Prop
  | result {hit : MemoHit} {function : Closure} {value : Value} (given : hits hit)
      (remembers : store.Remembers hit.function hit.key function value) : GivesAgain store hits value
  | argument {hit : MemoHit} {function : Closure} {result value : Value} (given : store.Answers hit)
      (remembers : store.Remembers hit.function hit.key function result) (cell : result.isCell = true)
      (member : value ∈ hit.args) : GivesAgain store hits value

/-- What is shared once the given calls are answered from memory. -/
def Shares (store : Store) (hits : MemoHit → Prop) : Value → Prop := store.Reaches (store.GivesAgain hits)

/-- Two arrays or two objects that may be one for some callers and two for others. -/
def Confuses (store : Store) (value other : Value) : Prop :=
  value.areCells other = true ∧ store.Shares store.Answers value ∧ store.Shares store.Answers other

/-- A later store remembers and reports all that a store does, and keeps what is shared. -/
structure GoesOn (hits : MemoHit → Prop) (store later : Store) : Prop where
  remembers : ∀ {ref key function result}, store.Remembers ref key function result →
    later.Remembers ref key function result
  answers : ∀ {hit}, store.Answers hit → later.Answers hit
  cells : store.KeepsCells (store.Shares hits) later

variable {store later : Store} {hits more : MemoHit → Prop} {value other : Value}

theorem GivesAgain.mono (gives : store.GivesAgain hits value) (within : ∀ hit, hits hit → more hit) :
    store.GivesAgain more value := by
  cases gives with
  | result given remembers => exact .result (within _ given) remembers
  | argument given remembers cell member => exact .argument given remembers cell member

theorem Shares.mono (shares : store.Shares hits value) (within : ∀ hit, hits hit → more hit) :
    store.Shares more value := Reaches.mono shares fun _ gives => gives.mono within

namespace GoesOn

variable (goesOn : store.GoesOn hits later)

include goesOn

theorem givesAgain (gives : store.GivesAgain more value) : later.GivesAgain more value := by
  cases gives with
  | result given remembers => exact .result given (goesOn.remembers remembers)
  | argument given remembers cell member =>
    exact .argument (goesOn.answers given) (goesOn.remembers remembers) cell member

/-- What is shared stays so. -/
theorem shares (within : ∀ hit, store.Answers hit → hits hit) (shares : store.Shares store.Answers value) :
    later.Shares later.Answers value := by
  have kept := Reaches.keep shares ⟨goesOn.cells.arrays, goesOn.cells.objects, fun value here =>
    goesOn.cells.same value (Shares.mono here within)⟩
  exact kept.mono fun _ gives => (goesOn.givesAgain gives).mono fun _ => goesOn.answers

end GoesOn

/-- A function that remembers one result more still remembers the others. -/
theorem Remembers.remember {ref other : FunctionRef} {key otherKey : String} {function closure : Closure}
    {cache : Table Value} {otherResult : Value} (remembers : store.Remembers other otherKey closure otherResult)
    (found : store.functions[ref]? = some (.memoized function cache)) (absent : cache.get? key = none) (result : Value) :
    (store.remember ref key result).Remembers other otherKey closure otherResult := by
  obtain ⟨otherCache, otherFound, entry⟩ := remembers
  by_cases same : ref = other
  · subst same
    cases found.symm.trans otherFound
    have differ : otherKey ≠ key := by
      rintro rfl
      cases absent.symm.trans entry
    refine ⟨cache.put key result, ?_, ?_⟩
    · simp [Store.remember, Array.getElem?_modify, found]
    · rw [Table.get?_put_of_ne _ _ differ, entry]
  · exact ⟨otherCache, by simp [Store.remember, Array.getElem?_modify, same, otherFound], entry⟩

/-- Nothing that functions remember or that is shared is concerned. -/
theorem goesOn_of_eq (functions : later.functions = store.functions) (arrays : later.arrays = store.arrays)
    (objects : later.objects = store.objects) (transcript : ∀ entry ∈ store.transcript, entry ∈ later.transcript) :
    store.GoesOn hits later where
  remembers := by
    rintro ref key function result ⟨cache, found, entry⟩
    exact ⟨cache, functions ▸ found, entry⟩
  answers known := transcript _ known
  cells := .of_eq arrays objects

end Store

end TreeScript
