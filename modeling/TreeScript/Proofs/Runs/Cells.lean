import TreeScript.Proofs.Conduct.Functions
import TreeScript.Proofs.Memo.Scalars
import TreeScript.Proofs.Runs.History

/-! # Stores without loose ends

A store is closed if everything that is referred to from within it is there. Then a new array or object,
made of values at hand, is made of values that are there already. A store is in order if it is closed and,
unless arrays may be filled, all its cells were made so. Putting values at hand into an array leaves the store
closed, and only taking some away keeps the order of the cells too.
-/

namespace TreeScript

open Exec

/-! ## Closed stores -/

namespace Store

/-- What a function refers to is in the store. -/
def HasParts (store : Store) : Callable → Prop
  | .builtin _ => True
  | .closure function => function.scope < store.frames.size
  | .memoized function cache =>
    function.scope < store.frames.size ∧ ∀ entry ∈ cache, store.Has entry.2
  | .arrow _ _ scope => scope < store.frames.size

/-- Everything that is referred to from within the store is in the store. -/
structure IsClosed (store : Store) : Prop where
  bindings : ∀ {frame : FrameRef} {inner}, store.frames[frame]? = some inner →
    ∀ entry ∈ inner.bindings, store.Has entry.2
  elements : ∀ ref, ∀ value ∈ store.elements ref, store.Has value
  entries : ∀ ref, ∀ entry ∈ store.entries ref, store.Has entry.2
  functions : ∀ {ref : FunctionRef} {function}, store.functions[ref]? = some function →
    store.HasParts function
  distinct : store.NamesDistinct

variable {store later : Store}

theorem HasParts.mono {function : Callable} (has : store.HasParts function)
    (frames : store.frames.size ≤ later.frames.size) (values : ∀ value, store.Has value → later.Has value) :
    later.HasParts function := by
  cases function with
  | builtin function => trivial
  | closure function => exact Nat.lt_of_lt_of_le has frames
  | memoized function cache =>
    exact ⟨Nat.lt_of_lt_of_le has.1 frames, fun entry member => values _ (has.2 entry member)⟩
  | arrow params body scope => exact Nat.lt_of_lt_of_le has frames

namespace IsClosed

variable (closed : store.IsClosed)

include closed

/-- Names are bound to values of the store only. -/
theorem lookup? {frame : FrameRef} {name : String} {value : Value}
    (found : store.lookup? frame name = some value) : store.Has value := by
  obtain ⟨outer, -, bound⟩ := List.exists_of_findSome?_eq_some found
  obtain ⟨inner, atOuter, entry⟩ := Option.bind_eq_some_iff.mp bound
  exact closed.bindings atOuter _ (Table.mem_of_get?_eq_some entry)

/-- A store stays closed when it grows, as long as what is new refers to what is there. -/
theorem grow (has : ∀ value, store.Has value → later.Has value) (size : store.frames.size ≤ later.frames.size)
    (bindings : ∀ {frame : FrameRef} {inner}, later.frames[frame]? = some inner → ∀ entry ∈ inner.bindings,
      later.Has entry.2 ∨ ∃ old, store.frames[frame]? = some old ∧ entry ∈ old.bindings)
    (elements : ∀ ref, ∀ value ∈ later.elements ref, later.Has value ∨ value ∈ store.elements ref)
    (entries : ∀ ref, ∀ entry ∈ later.entries ref, later.Has entry.2 ∨ entry ∈ store.entries ref)
    (functions : ∀ {ref : FunctionRef} {function}, later.functions[ref]? = some function →
      later.HasParts function ∨ store.functions[ref]? = some function) (distinct : later.NamesDistinct) :
    later.IsClosed where
  bindings found entry member := by
    rcases bindings found entry member with new | ⟨old, found, member⟩
    · exact new
    · exact has _ (closed.bindings found entry member)
  elements ref value member := (elements ref value member).elim id fun old => has _ (closed.elements ref value old)
  entries ref entry member := (entries ref entry member).elim id fun old => has _ (closed.entries ref entry old)
  functions found := (functions found).elim id fun old => (closed.functions old).mono size has
  distinct := distinct

/-- Changes to nothing but the transcript and the count of requests do not matter. -/
theorem of_eq (frames : later.frames = store.frames) (arrays : later.arrays = store.arrays)
    (objects : later.objects = store.objects) (functions : later.functions = store.functions) :
    later.IsClosed := by
  obtain ⟨_, _, _, _, transcript, requests⟩ := later
  cases frames
  cases arrays
  cases objects
  cases functions
  exact ⟨closed.bindings, closed.elements, closed.entries, closed.functions, closed.distinct⟩

theorem define (frame : FrameRef) (name : String) {value : Value} (has : store.Has value) :
    (store.define frame name value).IsClosed := by
  refine closed.grow (fun _ => id) (by simp [Store.define]) ?_ (fun _ _ => .inr) (fun _ _ => .inr) .inr
    closed.distinct
  intro other inner found entry member
  simp only [Store.define, Array.getElem?_modify] at found
  split at found
  · obtain ⟨old, atFrame, rfl⟩ := Option.map_eq_some_iff.mp found
    rcases Table.mem_put member with same | kept
    · exact .inl (same ▸ has)
    · exact .inr ⟨old, atFrame, kept⟩
  · exact .inr ⟨inner, found, member⟩

theorem addFrame (parent : FrameRef) (label : String) :
    (store.addFrame parent label).2.IsClosed := by
  refine closed.grow (fun _ => id) (by simp [Store.addFrame]) ?_ (fun _ _ => .inr) (fun _ _ => .inr) .inr
    closed.distinct
  intro frame inner found entry member
  simp only [Store.addFrame, Array.getElem?_push] at found
  split at found
  · cases found
    exact absurd member List.not_mem_nil
  · exact .inr ⟨inner, found, member⟩

theorem addArray {elements : Array Value} (has : ∀ value ∈ elements, store.Has value) :
    (store.addArray elements).2.IsClosed := by
  have kept (value : Value) : store.Has value → (store.addArray elements).2.Has value :=
    (Step.addArray elements : store.Step False _).has
  refine closed.grow kept (Nat.le_refl _) (fun found entry member => .inr ⟨_, found, member⟩) ?_
    (fun _ _ => .inr) .inr closed.distinct
  intro ref value member
  simp only [Store.elements, Store.addArray, Array.getD_eq_getD_getElem?, Array.getElem?_push] at member
  split at member
  · exact .inl (kept value (has value member))
  · exact .inr (by simpa [Store.elements] using member)

theorem addObject {entries : Table Value} (distinct : entries.keys.Nodup)
    (has : ∀ entry ∈ entries, store.Has entry.2) : (store.addObject entries).2.IsClosed := by
  have kept (value : Value) : store.Has value → (store.addObject entries).2.Has value :=
    (Step.addObject entries : store.Step False _).has
  refine closed.grow kept (Nat.le_refl _) (fun found entry member => .inr ⟨_, found, member⟩)
    (fun _ _ => .inr) ?_ .inr (closed.distinct.addObject distinct)
  intro ref entry member
  simp only [Store.entries, Store.addObject, Array.getD_eq_getD_getElem?, Array.getElem?_push] at member
  split at member
  · exact .inl (kept _ (has entry member))
  · exact .inr (by simpa [Store.entries] using member)

theorem addFunction {function : Callable} (has : store.HasParts function) :
    (store.addFunction function).2.IsClosed := by
  have kept (value : Value) : store.Has value → (store.addFunction function).2.Has value :=
    (Step.addFunction function : store.Step False _).has
  refine closed.grow kept (Nat.le_refl _) (fun found entry member => .inr ⟨_, found, member⟩)
    (fun _ _ => .inr) (fun _ _ => .inr) (fun found => .inl ?_) closed.distinct
  exact (EachFunction.addFunction (fun _ _ => closed.functions) has _ _ found).mono (Nat.le_refl _) kept

theorem updateArray (ref : ArrayRef) {change : Array Value → Array Value}
    (has : ∀ value ∈ change (store.elements ref), store.Has value) : (store.updateArray ref change).IsClosed := by
  have kept (value : Value) : store.Has value → (store.updateArray ref change).Has value :=
    (Step.updateArray ref change (.inl trivial) : store.Step True _).has
  refine closed.grow kept (Nat.le_refl _) (fun found entry member => .inr ⟨_, found, member⟩) ?_
    (fun _ _ => .inr) .inr closed.distinct
  intro other value member
  simp only [Store.elements, Store.updateArray, Array.getD_eq_getD_getElem?, Array.getElem?_modify] at has member ⊢
  split at member
  · next same =>
    subst same
    cases found : store.arrays[ref]? with
    | none => simp [found] at member
    | some elements =>
      rw [found] at has member
      exact .inl (kept value (has value member))
  · exact .inr member

theorem remember (ref : FunctionRef) (key : String) {result : Value} (has : store.Has result) :
    (store.remember ref key result).IsClosed := by
  have kept (value : Value) : store.Has value → (store.remember ref key result).Has value :=
    (Step.remember ref key result : store.Step False _).has
  refine closed.grow kept (Nat.le_refl _) (fun found entry member => .inr ⟨_, found, member⟩)
    (fun _ _ => .inr) (fun _ _ => .inr) ?_ closed.distinct
  intro other callable found
  simp only [Store.remember, Array.getElem?_modify] at found
  split at found
  · obtain ⟨old, atRef, rfl⟩ := Option.map_eq_some_iff.mp found
    have parts := closed.functions atRef
    cases old with
    | memoized function cache =>
      have more : store.HasParts (.memoized function (cache.put key result)) :=
        ⟨parts.1, fun entry member => (Table.mem_put member).elim (fun same => same ▸ has) (parts.2 entry)⟩
      exact .inl (more.mono (Nat.le_refl _) kept)
    | _ => exact .inr atRef
  · exact .inr found

end IsClosed

theorem initial_isClosed : Store.initial.IsClosed where
  bindings {frame inner} found entry member := by
    cases frame with
    | zero =>
      cases found
      obtain ⟨function, -, rfl⟩ := List.mem_map.mp member
      exact Link.builtinRef_lt function
    | succ frame => simp [Store.initial] at found
  elements ref value member := by simp [Store.elements, Store.initial] at member
  entries ref entry member := by simp [Store.entries, Store.initial] at member
  functions {ref function} found := by
    have builtins : Store.initial.EachFunction Store.initial.HasParts := initial_eachFunction fun _ => trivial
    exact builtins ref function found
  distinct := initial_namesDistinct

end Store

/-! ## Stores in order -/

/-- A value that is there before a run starts: no more than the built-in functions have been made. -/
def Value.isGiven : Value → Bool
  | array _ | object _ => false
  | function ref => ref < Store.initial.functions.size
  | _ => true

theorem Value.has_of_isGiven {value : Value} (given : value.isGiven = true) : Store.initial.Has value := by
  cases value with
  | array | object => cases given
  | function ref => exact (of_decide_eq_true given : ref < Store.initial.functions.size)
  | _ => trivial

/-- The node fills no array unless it may, and the values that stand in it are there before the run. -/
def Node.keepsOrder (mayFill : Bool) (_ : Site) (node : Node) : Bool :=
  (mayFill || !node.fillsArrays) && node.values.all Value.isGiven

/-- The nodes in the body of the function keep the order. -/
def Callable.KeepsOrder (mayFill : Bool) : Callable → Prop
  | .builtin _ => True
  | .closure function | .memoized function _ =>
    allEverywhere (Node.keepsOrder mayFill) .ofFunction function.body = true
  | .arrow _ body _ => body.everywhere (Node.keepsOrder mayFill) .ofArrow = true

theorem Callable.keepsOrder_blind (mayFill : Bool) : BlindToCaches (Callable.KeepsOrder mayFill) :=
  fun _ keeps => keeps

namespace Store

/-- The store is closed, and if its functions fill no arrays, its cells were made in order. -/
structure InOrder (mayFill : Bool) (store : Store) : Prop where
  closed : store.IsClosed
  functions : store.EachFunction (Callable.KeepsOrder mayFill)
  orderly : mayFill = false → ∃ earlier, store.IsOrderly earlier

variable {store later : Store} {mayFill : Bool}

theorem initial_inOrder : Store.initial.InOrder mayFill where
  closed := initial_isClosed
  functions := initial_eachFunction fun _ => trivial
  orderly _ := ⟨[], .start, fun cell known => by cases cell <;> simp [IsCell, Store.initial] at known⟩

namespace InOrder

variable (inOrder : store.InOrder mayFill)

include inOrder

theorem orderly_step (step : store.Step False later) (new : ∀ cell, later.IsCell cell → store.IsCell cell ∨
      store.Creates cell later ∧ ∀ value ∈ later.contents cell, store.Has value) (plain : mayFill = false) :
    ∃ earlier, later.IsOrderly earlier :=
  have ⟨_, orderly⟩ := inOrder.orderly plain
  ⟨_, orderly.step step new⟩

theorem define (frame : FrameRef) (name : String) {value : Value} (has : store.Has value) :
    (store.define frame name value).InOrder mayFill where
  closed := inOrder.closed.define frame name has
  functions := inOrder.functions
  orderly := inOrder.orderly_step (.define _ _ _) fun _ => .inl

theorem addFrame (parent : FrameRef) (label : String) :
    (store.addFrame parent label).2.InOrder mayFill where
  closed := inOrder.closed.addFrame parent label
  functions := inOrder.functions
  orderly := inOrder.orderly_step (.addFrame _ _) fun _ => .inl

theorem addArray {elements : Array Value} (has : ∀ value ∈ elements, store.Has value) :
    (store.addArray elements).2.InOrder mayFill where
  closed := inOrder.closed.addArray has
  functions := inOrder.functions
  orderly := by
    refine inOrder.orderly_step (.addArray elements) fun cell known => ?_
    cases cell with
    | array ref =>
      have inside : ref < store.arrays.size + 1 := by simpa [IsCell, Store.addArray] using known
      rcases Nat.lt_succ_iff_lt_or_eq.mp inside with old | rfl
      · exact .inl old
      · refine .inr ⟨.array elements, fun value member => has value ?_⟩
        simpa [contents, Store.elements, Store.addArray] using member
    | _ => exact .inl known

theorem addObject {entries : Table Value} (distinct : entries.keys.Nodup)
    (has : ∀ entry ∈ entries, store.Has entry.2) : (store.addObject entries).2.InOrder mayFill where
  closed := inOrder.closed.addObject distinct has
  functions := inOrder.functions
  orderly := by
    refine inOrder.orderly_step (.addObject entries) fun cell known => ?_
    cases cell with
    | object ref =>
      have inside : ref < store.objects.size + 1 := by simpa [IsCell, Store.addObject] using known
      rcases Nat.lt_succ_iff_lt_or_eq.mp inside with old | rfl
      · exact .inl old
      · refine .inr ⟨.object entries, fun value member => ?_⟩
        have new : (store.addObject entries).2.entries store.objects.size = entries := by
          simp [Store.entries, Store.addObject]
        rw [contents, new] at member
        obtain ⟨entry, inside, rfl⟩ := List.mem_map.mp member
        exact has entry inside
    | _ => exact .inl known

theorem addFunction {function : Callable} (has : store.HasParts function) (keeps : function.KeepsOrder mayFill) :
    (store.addFunction function).2.InOrder mayFill where
  closed := inOrder.closed.addFunction has
  functions := inOrder.functions.addFunction keeps
  orderly := inOrder.orderly_step (.addFunction _) fun _ => .inl

theorem updateArray (ref : ArrayRef) {change : Array Value → Array Value}
    (has : ∀ value ∈ change (store.elements ref), store.Has value) (drops : mayFill = true ∨ OnlyDrops change) :
    (store.updateArray ref change).InOrder mayFill where
  closed := inOrder.closed.updateArray ref has
  functions := inOrder.functions
  orderly plain := by
    have drops : OnlyDrops change := drops.resolve_left (by simp [plain])
    refine inOrder.orderly_step (.updateArray ref change (.inr drops)) (fun cell known => .inl ?_) plain
    cases cell with
    | array other => simpa [IsCell, Store.updateArray] using known
    | _ => exact known

theorem remember (ref : FunctionRef) (key : String) {result : Value} (has : store.Has result) :
    (store.remember ref key result).InOrder mayFill where
  closed := inOrder.closed.remember ref key has
  functions := inOrder.functions.remember (Callable.keepsOrder_blind mayFill) ref key result
  orderly := inOrder.orderly_step (.remember _ _ _) fun _ => .inl

theorem record (event : Event) : (store.record event).InOrder mayFill where
  closed := inOrder.closed.of_eq rfl rfl rfl rfl
  functions := inOrder.functions
  orderly := inOrder.orderly_step (.record _) fun _ => .inl

theorem write (text : String) : (store.write text).InOrder mayFill where
  closed := inOrder.closed.of_eq rfl rfl rfl rfl
  functions := inOrder.functions
  orderly := inOrder.orderly_step (.write _) fun _ => .inl

theorem request : ({ store with requests := store.requests + 1 } : Store).InOrder mayFill where
  closed := inOrder.closed.of_eq rfl rfl rfl rfl
  functions := inOrder.functions
  orderly := inOrder.orderly_step .request fun _ => .inl

end InOrder

end Store

end TreeScript
