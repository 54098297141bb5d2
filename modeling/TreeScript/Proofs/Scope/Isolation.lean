import TreeScript.Proofs.Conduct.Execution

/-! # Scopes are isolated

Executing a node binds names in the frame it is executed in and in frames made on the way, and
nowhere else. Functions captured the frames they were made in, but a call binds its parameters in a
new frame, and so does every round of a loop and every handler; so the frames of callers, of
captured scopes and of enclosing blocks keep their bindings, whichever way the execution ends. A
node that opens a scope of its own leaves the frame it is executed in alone as well.
-/

namespace TreeScript

namespace Store

/-- The frames of `before` are still there in `after`, each with its label and the frames around it,
and those that are not `isOpen` have kept their bindings. -/
def KeepsFrames (isOpen : FrameRef → Prop) (before after : Store) : Prop :=
  ∀ (ref : FrameRef) frame, before.frames[ref]? = some frame →
    ∃ later, after.frames[ref]? = some later ∧ later.label = frame.label ∧
      later.enclosing = frame.enclosing ∧ (isOpen ref ∨ later.bindings = frame.bindings)

namespace KeepsFrames

variable {isOpen : FrameRef → Prop} {before after : Store}

theorem refl (isOpen : FrameRef → Prop) (store : Store) : store.KeepsFrames isOpen store :=
  fun _ frame found => ⟨frame, found, rfl, rfl, .inr rfl⟩

variable (kept : before.KeepsFrames isOpen after)

include kept

theorem size_le : before.frames.size ≤ after.frames.size := by
  refine Nat.le_of_not_lt fun inside => ?_
  obtain ⟨later, found, _⟩ := kept _ _ (Array.getElem?_eq_getElem inside)
  simp at found

/-- Binding a name concerns one frame only. -/
theorem define {frame : FrameRef} (name : String) (value : Value)
    (may : isOpen frame ∨ before.frames.size ≤ frame) :
    before.KeepsFrames isOpen (after.define frame name value) := by
  intro ref inner found
  obtain ⟨later, atEnd, label, enclosing, bindings⟩ := kept ref inner found
  by_cases same : frame = ref
  · subst same
    have inside : frame < before.frames.size := (Array.getElem?_eq_some_iff.mp found).1
    have opened : isOpen frame := may.resolve_right (Nat.not_le_of_lt inside)
    refine ⟨{ later with bindings := later.bindings.put name value }, ?_, label, enclosing,
      .inl opened⟩
    simp [Store.define, Array.getElem?_modify, atEnd]
  · refine ⟨later, ?_, label, enclosing, bindings⟩
    simp [Store.define, Array.getElem?_modify, same, atEnd]

theorem addFrame (parent : FrameRef) (label : String) :
    before.KeepsFrames isOpen (after.addFrame parent label).2 := by
  intro ref inner found
  obtain ⟨later, atEnd, rest⟩ := kept ref inner found
  have inside : ref < after.frames.size := (Array.getElem?_eq_some_iff.mp atEnd).1
  refine ⟨later, ?_, rest⟩
  simp only [Store.addFrame, Array.getElem?_push, if_neg (Nat.ne_of_lt inside), atEnd]

end KeepsFrames

end Store

/-- Keep the frames of a store, some of which may be written; new frames may be written too. -/
def Conduct.isolating (isOpen : FrameRef → Prop) (before : Store) : Conduct where
  holds := before.KeepsFrames isOpen
  writable ref := isOpen ref ∨ before.frames.size ≤ ref
  makes _ := True
  allows _ := True

theorem Conduct.isolating_unrestricted (isOpen : FrameRef → Prop) (before : Store) :
    (isolating isOpen before).Unrestricted where
  toSturdy := .of_frames_functions fun frames _ kept ref frame found => frames ▸ kept ref frame found
  define kept may := kept.define _ _ may
  addFrame kept := kept.addFrame _ _
  fresh kept := .inr kept.size_le
  addFunction kept _ := kept
  made _ _ := trivial
  remember kept := kept
  caught kept _ := kept
  memoHit kept := kept
  anyFunction _ := trivial
  anyReason _ := trivial

/-- The frames that may have other bindings after the execution of a node in a frame. -/
def Node.writes (node : Node) (frame : FrameRef) (ref : FrameRef) : Prop :=
  ref = frame ∧ node.opensScope = false

/-- Every execution keeps the frames that the node does not write. -/
theorem Node.exec_keepsFrames (node : Node) (effort : Nat) (frame : FrameRef) (host : Host)
    (before : Store) :
    before.KeepsFrames (node.writes frame) (node.exec effort frame host before).store := by
  have free := Conduct.isolating_unrestricted (node.writes frame) before
  have may : node.writes frame frame ∨ node.opensScope = true := by
    cases opens : node.opensScope with
    | true => exact .inr rfl
    | false => exact .inl ⟨rfl, opens⟩
  exact (node.exec_follows free effort (may.imp_left .inl)).holds_store host (.refl _ before)

/-- Executing a node changes the bindings of no frame that was there before, except for the frame it
is executed in; a node that opens a scope does not change those either. -/
theorem Node.exec_leaves_other_frames (node : Node) (effort : Nat) (frame : FrameRef) (host : Host)
    (before : Store) {ref : FrameRef} {inner : Frame} (found : before.frames[ref]? = some inner)
    (other : ref ≠ frame ∨ node.opensScope = true) :
    ∃ later, (node.exec effort frame host before).store.frames[ref]? = some later ∧
      later.bindings = inner.bindings := by
  obtain ⟨later, atEnd, _, _, bindings⟩ := node.exec_keepsFrames effort frame host before ref inner found
  refine ⟨later, atEnd, bindings.resolve_left ?_⟩
  rintro ⟨same, closed⟩
  rcases other with differs | opens
  · exact differs same
  · simp [closed] at opens

/-- A block that binds the name of a built-in, and then stops by a jump, leaves the root frame as it
was. -/
theorem Node.exec_block_leaves_root :
    ∃ later, ((Node.block [.declare "string" "print" (.literal (.string "shadow")), .breakLoop]).exec
        3 Store.root default .initial).store.frames[Store.root]? = some later ∧
      later.bindings = Store.builtinBindings := by
  have found : Store.initial.frames[Store.root]? = some ⟨"global", [], Store.builtinBindings⟩ := rfl
  exact Node.exec_leaves_other_frames _ 3 Store.root default .initial found (.inr rfl)

end TreeScript
