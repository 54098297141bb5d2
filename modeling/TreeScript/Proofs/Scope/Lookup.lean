import Mathlib.Tactic.SplitIfs
import TreeScript.Proofs.Conduct.Frames

/-! # What is seen from a frame

The frames around a frame are older than it, and execution leaves the frames as they are in which
it does not work. So what a frame sees stays the same while the store grows, and a new frame
sees its own bindings and, behind them, what the frame sees that it was made in.
-/

namespace TreeScript

theorem findSome?_eq_of_forall {α β : Type} {f g : α → Option β} {items : List α}
    (same : ∀ item ∈ items, f item = g item) : items.findSome? f = items.findSome? g := by
  induction items with
  | nil => rfl
  | cons item rest ih =>
    obtain ⟨sameHead, sameRest⟩ := List.forall_mem_cons.mp same
    rw [List.findSome?_cons, List.findSome?_cons, sameHead, ih sameRest]

namespace Store

variable {store later : Store} {frame : FrameRef}

theorem lt_of_visible {store : Store} {chain : List FrameRef} (visible : store.visible frame = frame :: chain) :
    frame < store.frames.size := by
  unfold Store.visible at visible
  split at visible
  · next found => exact (Array.getElem?_eq_some_iff.mp found).1
  · cases visible

theorem visible_define (store : Store) (frame other : FrameRef) (name : String) (value : Value) :
    (store.define frame name value).visible other = store.visible other := by
  unfold Store.visible
  by_cases same : frame = other
  · subst same
    cases found : store.frames[frame]? <;> simp [Store.define, Array.getElem?_modify, found]
  · simp [Store.define, Array.getElem?_modify, same]

theorem binding?_define_of_ne (store : Store) {frame other : FrameRef} (name known : String)
    (value : Value) (differ : frame ≠ other) :
    (store.define frame name value).binding? other known = store.binding? other known := by
  simp [binding?, Store.define, Array.getElem?_modify, differ]

theorem binding?_define_self (store : Store) (name known : String) (value : Value)
    (inside : frame < store.frames.size) :
    (store.define frame name value).binding? frame known =
      if known = name then some value else store.binding? frame known := by
  have found := Array.getElem?_eq_getElem inside
  by_cases same : known = name
  · subst same
    simp [binding?, Store.define, Array.getElem?_modify, found]
  · simp [binding?, Store.define, Array.getElem?_modify, found, same, Table.get?_put_of_ne _ _ same]

/-- The frame is in the store, and so are all the frames around it. -/
structure Holds (store : Store) (frame : FrameRef) : Prop where
  inside : frame < store.frames.size
  around : ∀ outer ∈ store.visible frame, outer < store.frames.size

/-- All frames of a store are in a later one, with the same bindings. -/
def IsGrownTo (store later : Store) : Prop :=
  ∀ ref < store.frames.size, later.frames[ref]? = store.frames[ref]?

namespace IsGrownTo

theorem refl (store : Store) : store.IsGrownTo store := fun _ _ => rfl

theorem size_le (grown : store.IsGrownTo later) : store.frames.size ≤ later.frames.size := by
  refine Nat.le_of_not_lt fun smaller => ?_
  have same := grown later.frames.size smaller
  rw [Array.getElem?_eq_none (Nat.le_refl _), Array.getElem?_eq_getElem smaller] at same
  cases same

theorem trans {last : Store} (grown : store.IsGrownTo later) (more : later.IsGrownTo last) :
    store.IsGrownTo last := fun ref inside =>
  (more ref (Nat.lt_of_lt_of_le inside grown.size_le)).trans (grown ref inside)

theorem of_frames_eq (same : later.frames = store.frames) : store.IsGrownTo later := fun ref _ => by
  rw [same]

theorem of_push {inner : Frame} (pushed : later.frames = store.frames.push inner) :
    store.IsGrownTo later := fun ref inside => by
  rw [pushed, Array.getElem?_push, if_neg (Nat.ne_of_lt inside)]

theorem visible (grown : store.IsGrownTo later) (inside : frame < store.frames.size) :
    later.visible frame = store.visible frame := by
  rw [Store.visible, Store.visible, grown frame inside]

theorem lookup? (grown : store.IsGrownTo later) (holds : store.Holds frame) (name : String) :
    later.lookup? frame name = store.lookup? frame name := by
  rw [Store.lookup?, Store.lookup?, grown.visible holds.inside]
  have each (outer : FrameRef) (member : outer ∈ store.visible frame) :
      later.binding? outer name = store.binding? outer name := by
    rw [binding?, binding?, grown outer (holds.around outer member)]
  exact findSome?_eq_of_forall each

theorem holds (grown : store.IsGrownTo later) (holds : store.Holds frame) : later.Holds frame where
  inside := Nat.lt_of_lt_of_le holds.inside grown.size_le
  around outer member := by
    rw [grown.visible holds.inside] at member
    exact Nat.lt_of_lt_of_le (holds.around outer member) grown.size_le

end IsGrownTo

/-! ## Bindings -/

theorem Holds.define {frame inner : FrameRef} (holds : store.Holds frame) (name : String) (value : Value) :
    (store.define inner name value).Holds frame where
  inside := by simpa [Store.define] using holds.inside
  around outer member := by
    rw [visible_define] at member
    simpa [Store.define] using holds.around outer member

/-- A name has in a frame the value that it was bound to there. -/
theorem lookup?_define_self (inside : frame < store.frames.size) (name : String) (value : Value) :
    (store.define frame name value).lookup? frame name = some value := by
  have visible : store.visible frame = frame :: store.frames[frame].enclosing := by
    simp [Store.visible, Array.getElem?_eq_getElem inside]
  rw [lookup?, visible_define, visible, List.findSome?_cons, binding?_define_self _ _ _ _ inside,
    if_pos rfl]

/-- Binding another name does not change what a name stands for. -/
theorem lookup?_define_of_ne {frame other : FrameRef} {name known : String} (differs : known ≠ name) (value : Value) :
    (store.define frame name value).lookup? other known = store.lookup? other known := by
  rw [lookup?, lookup?, visible_define]
  apply findSome?_eq_of_forall
  intro scope _
  by_cases same : frame = scope
  · subst same
    by_cases inside : frame < store.frames.size
    · rw [binding?_define_self _ _ _ _ inside, if_neg differs]
    · simp [binding?, Store.define, Nat.not_lt.mp inside]
  · exact binding?_define_of_ne store name known value same

/-- What is bound in a new frame leaves the older frames as they were. -/
theorem IsGrownTo.define (grown : store.IsGrownTo later) (new : store.frames.size ≤ frame) (name : String)
    (value : Value) : store.IsGrownTo (later.define frame name value) := by
  intro ref inside
  have differs : frame ≠ ref := Nat.ne_of_gt (Nat.lt_of_lt_of_le inside new)
  rw [← grown ref inside]
  simp [Store.define, Array.getElem?_modify, differs]

/-! ## New frames -/

variable {parent : FrameRef} {label : String} {bindings : Table Value}

theorem visible_push (pushed : later.frames = store.frames.push ⟨label, store.visible parent, bindings⟩) :
    later.visible store.frames.size = store.frames.size :: store.visible parent := by
  simp [visible, pushed]

/-- A new frame sees its own bindings, and behind them what its parent sees. -/
theorem lookup?_push (pushed : later.frames = store.frames.push ⟨label, store.visible parent, bindings⟩)
    (holds : store.Holds parent) (name : String) :
    later.lookup? store.frames.size name = (bindings.get? name).or (store.lookup? parent name) := by
  have grown : store.IsGrownTo later := .of_push pushed
  have own : later.binding? store.frames.size name = bindings.get? name := by simp [binding?, pushed]
  rw [← grown.lookup? holds, lookup?, visible_push pushed, List.findSome?_cons, own, lookup?,
    grown.visible holds.inside]
  cases bindings.get? name <;> rfl

/-- A new frame without bindings sees what its parent binds. -/
theorem lookup?_of_binding? {name : String} {value : Value}
    (pushed : later.frames = store.frames.push ⟨label, store.visible parent, []⟩)
    (bound : store.binding? parent name = some value) : later.lookup? store.frames.size name = some value := by
  obtain ⟨inner, there, -⟩ := Option.bind_eq_some_iff.mp bound
  have inside := (Array.getElem?_eq_some_iff.mp there).1
  have seen : store.visible parent = parent :: inner.enclosing := by rw [visible, there]
  have own : later.binding? store.frames.size name = none := by simp [binding?, pushed]
  have next : later.binding? parent name = some value := by
    rw [binding?, IsGrownTo.of_push pushed parent inside]
    exact bound
  rw [lookup?, visible_push pushed, seen, List.findSome?_cons, own]
  simp only [List.findSome?_cons, next]

theorem holds_push (pushed : later.frames = store.frames.push ⟨label, store.visible parent, bindings⟩)
    (holds : store.Holds parent) : later.Holds store.frames.size where
  inside := by simp [pushed]
  around outer member := by
    rw [visible_push pushed] at member
    rw [pushed, Array.size_push]
    rcases List.mem_cons.mp member with rfl | member
    · exact Nat.lt_succ_self _
    · exact Nat.lt_succ_of_lt (holds.around outer member)

theorem define_push {frames : Array Frame} {inner : Frame} (pushed : store.frames = frames.push inner)
    (name : String) (value : Value) :
    store.define frames.size name value =
      { store with frames := frames.push { inner with bindings := inner.bindings.put name value } } := by
  have changed : (frames.push inner).modify frames.size
      (fun inner => { inner with bindings := inner.bindings.put name value }) =
        frames.push { inner with bindings := inner.bindings.put name value } := by
    apply Array.ext_getElem?
    intro ref
    rw [Array.getElem?_modify, Array.getElem?_push, Array.getElem?_push]
    split_ifs <;> simp_all
  rw [Store.define, pushed, changed]

/-- Bind names in the newest frame. -/
theorem defineAll_push {frames : Array Frame} {inner : Frame} (pushed : store.frames = frames.push inner)
    (names : List String) (values : List Value) :
    store.defineAll frames.size names values =
      { store with frames := frames.push { inner with
          bindings := (names.zip values).foldl (fun table (name, value) => table.put name value)
            inner.bindings } } := by
  induction names generalizing store inner values with
  | nil => simp [defineAll, ← pushed]
  | cons name names ih =>
    cases values with
    | nil => simp [defineAll, ← pushed]
    | cons value values =>
      rw [defineAll, define_push pushed, ih rfl]
      rfl

/-- The frame of a call binds the parameters to the arguments. -/
theorem enterClosure_eq (store : Store) (function : Closure) (args : List Value) :
    store.enterClosure function args =
      { store with frames := store.frames.push ⟨"call " ++ function.name, store.visible function.scope,
          Table.ofList (function.params.zip args)⟩ } := by
  have pushed : (store.addFrame function.scope ("call " ++ function.name)).2.frames =
      store.frames.push ⟨"call " ++ function.name, store.visible function.scope, []⟩ := rfl
  exact defineAll_push pushed function.params args

end Store

end TreeScript
