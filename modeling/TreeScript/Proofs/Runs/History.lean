import TreeScript.Proofs.Runs.Interruption

/-! # The history of a store

A run changes its store in single steps. The series of stores that it goes through is a *history*: each
store comes about from the one before it by one change. Cells are only ever added, and the entries of an
object stay as they were when it was made. Where arrays gain no elements, a cell that was made of values
that were there already goes on to hold nothing but such values; so going inside again and again leads to
older and older cells.
-/

namespace TreeScript

namespace Store

/-! ## Single changes -/

/-- One change to a store. Arrays gain elements only where they may. -/
inductive Step (mayGain : Prop) (store : Store) : Store → Prop
  | define (frame : FrameRef) (name : String) (value : Value) : Step mayGain store (store.define frame name value)
  | addFrame (parent : FrameRef) (label : String) : Step mayGain store (store.addFrame parent label).2
  | addArray (elements : Array Value) : Step mayGain store (store.addArray elements).2
  | addObject (entries : Table Value) : Step mayGain store (store.addObject entries).2
  | addFunction (function : Callable) : Step mayGain store (store.addFunction function).2
  | updateArray (ref : ArrayRef) (change : Array Value → Array Value) (may : mayGain ∨ OnlyDrops change) :
      Step mayGain store (store.updateArray ref change)
  | remember (ref : FunctionRef) (key : String) (result : Value) :
      Step mayGain store (store.remember ref key result)
  | record (event : Event) : Step mayGain store (store.record event)
  | write (text : String) : Step mayGain store (store.write text)
  | request : Step mayGain store { store with requests := store.requests + 1 }

/-- A value whose cell is in the store; scalars need none. -/
def Has (store : Store) : Value → Prop
  | .array ref => ref < store.arrays.size
  | .object ref => ref < store.objects.size
  | .function ref => ref < store.functions.size
  | _ => True

/-- The arrays and objects of a store. -/
def IsCell (store : Store) : Value → Prop
  | .array ref => ref < store.arrays.size
  | .object ref => ref < store.objects.size
  | _ => False

/-- The objects of a store are still there in a later one, with the same entries. -/
def KeepsObjects (store later : Store) : Prop :=
  ∀ (ref : ObjectRef) (entries : Table Value), store.objects[ref]? = some entries →
    later.objects[ref]? = some entries

/-- The creation of an array or an object: the cell and the store with it. -/
inductive Creates (store : Store) : Value → Store → Prop
  | array (elements : Array Value) : Creates store (.array store.arrays.size) (store.addArray elements).2
  | object (entries : Table Value) : Creates store (.object store.objects.size) (store.addObject entries).2

variable {mayGain : Prop} {store later : Store} {value : Value}

theorem Creates.not_has (creates : store.Creates value later) : ¬store.Has value := by
  cases creates <;> exact Nat.lt_irrefl _

/-- What is no cell of the store has nothing inside it. -/
theorem contents_eq_nil_of_not_isCell (none : ¬store.IsCell value) : store.contents value = [] := by
  rcases store.contents_eq_nil_or_cell value with empty | ⟨place, rfl⟩
  · exact empty
  · cases place with
    | inl ref => exact absurd ref.2 none
    | inr ref => exact absurd ref.2 none

namespace Step

/-- Cells are never removed. -/
theorem sizes (step : store.Step mayGain later) : store.arrays.size ≤ later.arrays.size ∧
    store.objects.size ≤ later.objects.size ∧ store.functions.size ≤ later.functions.size := by
  cases step <;> simp [Store.define, Store.addFrame, Store.addArray, Store.addObject, Store.addFunction,
    Store.updateArray, Store.remember, Store.record, Store.write]

theorem has (step : store.Step mayGain later) (known : store.Has value) : later.Has value := by
  obtain ⟨arrays, objects, functions⟩ := step.sizes
  cases value with
  | array ref => exact Nat.lt_of_lt_of_le known arrays
  | object ref => exact Nat.lt_of_lt_of_le known objects
  | function ref => exact Nat.lt_of_lt_of_le known functions
  | _ => exact known

theorem keepsObjects (step : store.Step mayGain later) : store.KeepsObjects later := by
  intro ref entries found
  cases step with
  | addObject added =>
    have inside := (Array.getElem?_eq_some_iff.mp found).1
    simpa [Store.addObject, Array.getElem?_push, Nat.ne_of_lt inside] using found
  | _ => exact found

/-- Where arrays gain no elements, the cells of a store hold nothing new later. -/
theorem contents_subset (step : store.Step False later) (cell : store.IsCell value) :
    ∀ inner ∈ later.contents value, inner ∈ store.contents value := by
  intro inner member
  cases value with
  | array ref =>
    cases step with
    | addArray added =>
      simpa [contents, elements, Store.addArray, Array.getElem?_push, Nat.ne_of_lt (show ref < _ from cell)]
        using member
    | updateArray other change may =>
      have drops := may.resolve_left id
      simp only [contents, elements, Store.updateArray, Array.getD_eq_getD_getElem?, Array.getElem?_modify,
        Array.getElem?_eq_getElem (show ref < _ from cell)] at member ⊢
      split at member
      · simpa using drops _ _ (by simpa using member)
      · exact member
    | _ => exact member
  | object ref =>
    cases step with
    | addObject added =>
      simpa [contents, entries, Store.addObject, Array.getElem?_push, Nat.ne_of_lt (show ref < _ from cell)]
        using member
    | _ => exact member
  | _ => exact cell.elim

end Step

/-! ## Histories -/

/-- A series of stores, the latest first, each of which came about from the one before it by one change, in
which arrays gain no elements; the first of all is that at the start of a run. -/
inductive IsHistory : List Store → Prop
  | start : IsHistory [.initial]
  | step {before after : Store} {earlier : List Store} (history : IsHistory (before :: earlier))
      (step : before.Step False after) : IsHistory (after :: before :: earlier)

namespace IsHistory

variable {history earlier : List Store}

theorem suffix (historical : IsHistory history) {older : List Store} (part : store :: older <:+ history) :
    IsHistory (store :: older) := by
  induction historical with
  | start =>
    rcases List.suffix_cons_iff.mp part with same | none
    · rw [same]
      exact .start
    · exact absurd none (by simp)
  | step historical step ih =>
    rcases List.suffix_cons_iff.mp part with same | inside
    · rw [same]
      exact .step historical step
    · exact ih inside

/-- What was in a store once is in all later ones. -/
theorem has (historical : IsHistory history) :
    history.Pairwise fun later old => ∀ value, old.Has value → later.Has value := by
  induction historical with
  | start => exact List.pairwise_singleton _ _
  | @step before after earlier _ step ih =>
    refine List.pairwise_cons.mpr ⟨List.forall_mem_cons.mpr ⟨fun _ => step.has, ?_⟩, ih⟩
    exact fun old member value has => step.has ((List.pairwise_cons.mp ih).1 old member value has)

end IsHistory

/-! ## Cells made of older values -/

/-- A cell of a store was created in a history of it, out of values that were there already. -/
def IsMadeOfOlder (store : Store) (history : List Store) (cell : Value) : Prop :=
  ∃ created before oldest, created :: before :: oldest <:+ history ∧ before.Creates cell created ∧
    ∀ value ∈ store.contents cell, before.Has value

/-- A history in which arrays gain no elements and all cells of the last store were made of older
values. -/
structure IsOrderly (store : Store) (earlier : List Store) : Prop where
  history : IsHistory (store :: earlier)
  older : ∀ cell, store.IsCell cell → store.IsMadeOfOlder (store :: earlier) cell

namespace IsOrderly

variable {earlier : List Store}

/-- A change keeps the order, if the cells that it adds are made of values that were there. -/
theorem step (orderly : store.IsOrderly earlier) (step : store.Step False later)
    (new : ∀ cell, later.IsCell cell → store.IsCell cell ∨
      store.Creates cell later ∧ ∀ value ∈ later.contents cell, store.Has value) :
    later.IsOrderly (store :: earlier) where
  history := .step orderly.history step
  older cell known := by
    rcases new cell known with old | ⟨creates, has⟩
    · obtain ⟨created, before, oldest, part, creates, has⟩ := orderly.older cell old
      exact ⟨created, before, oldest, part.trans (List.suffix_cons _ _), creates,
        fun value member => has value (step.contents_subset old value member)⟩
    · exact ⟨later, store, earlier, List.suffix_refl _, creates, has⟩

/-- What is inside a cell was created before the cell. -/
theorem isAcyclic_of_length (orderly : store.IsOrderly earlier) (bound : Nat) {cell : Value}
    {created before : Store} {oldest : List Store} (part : created :: before :: oldest <:+ store :: earlier)
    (has : ∀ value ∈ store.contents cell, before.Has value) (short : oldest.length < bound) :
    store.IsAcyclic cell := by
  induction bound generalizing cell created before oldest with
  | zero => exact absurd short (Nat.not_lt_zero _)
  | succ bound ih =>
    refine ⟨_, fun inner inside => ?_⟩
    by_cases isCell : store.IsCell inner
    · obtain ⟨created', before', oldest', part', creates, has'⟩ := orderly.older inner isCell
      refine ih part' has' (Nat.lt_of_lt_of_le (Nat.lt_of_not_le fun later => ?_) (Nat.le_of_lt_succ short))
      -- Else the store before the outer cell would be older than that before the inner one.
      have tail : before :: oldest <:+ store :: earlier := (List.suffix_cons _ _).trans part
      have tail' : before' :: oldest' <:+ store :: earlier := (List.suffix_cons _ _).trans part'
      have within : before :: oldest <:+ before' :: oldest' :=
        List.suffix_of_suffix_length_le tail tail' (Nat.succ_le_succ later)
      have old := (orderly.history.suffix tail').has
      have member : before ∈ before' :: oldest' := within.subset (List.mem_cons_self ..)
      refine creates.not_has ?_
      rcases List.mem_cons.mp member with same | older
      · exact same ▸ has inner inside
      · exact (List.pairwise_cons.mp old).1 before older inner (has inner inside)
    · refine ⟨_, fun deeper within => ?_⟩
      rw [contents_eq_nil_of_not_isCell isCell] at within
      exact absurd within List.not_mem_nil

theorem isAcyclic (orderly : store.IsOrderly earlier) (value : Value) : store.IsAcyclic value := by
  by_cases cell : store.IsCell value
  · obtain ⟨created, before, oldest, part, -, has⟩ := orderly.older value cell
    exact orderly.isAcyclic_of_length _ part has (Nat.lt_succ_self _)
  · refine ⟨_, fun inner inside => ?_⟩
    rw [contents_eq_nil_of_not_isCell cell] at inside
    exact absurd inside List.not_mem_nil

end IsOrderly

/-- Where nothing contains itself, every value has a text, a type and a quantity, and all arguments have
a key. -/
theorem isSome_views (acyclic : ∀ value, store.IsAcyclic value) :
    (∀ value, (store.text? value).isSome ∧ (store.type? value).isSome ∧ (store.quantity? value).isSome) ∧
      ∀ args, (store.key? args).isSome := by
  have drawn (value : Value) : (store.picture? value).isSome := by
    obtain ⟨picture, drawn⟩ := (acyclic value).exists_picture
    rw [drawn]
    rfl
  refine ⟨fun value => ⟨?_, ?_, ?_⟩, fun args => ?_⟩
  · refine Option.isSome_iff_ne_none.mpr fun none => ?_
    exact Option.isSome_iff_ne_none.mp (drawn value) (picture?_eq_none_of_text? none)
  · rw [type?, Option.isSome_map]
    exact drawn value
  · refine Option.isSome_iff_ne_none.mpr fun none => ?_
    obtain ⟨inner, undrawn⟩ := exists_picture?_eq_none_of_quantity? none
    exact Option.isSome_iff_ne_none.mp (drawn inner) undrawn
  · obtain ⟨pictures, all⟩ := Option.isSome_iff_exists.mp (isSome_mapM_iff.mpr fun value (_ : value ∈ args) => drawn value)
    rw [key?, all]
    rfl

end Store

end TreeScript
