import TreeScript.Proofs.Conduct.Execution
import TreeScript.Proofs.Mirror.Programs

/-! # Runs that are interrupted

A *moment* of a run is a node about to be executed in a frame of a store. To speak of what happens on the
way of a run, the run is interrupted: at the first moment that is picked out it stops short, and leaves the
store as it is. A run that is never interrupted is a run of the program; the states of a run are the
stores in which it ends or can be interrupted.
-/

namespace TreeScript

open Exec

/-- A node about to be executed, in a frame of a store. -/
structure RunMoment where
  node : Node
  frame : FrameRef
  store : Store

/-- The evaluator that stops short at the moments picked out. -/
def interrupted (halts : RunMoment → Bool) : Nat → Evaluator
  | 0 => ⟨fun _ _ => Exec.unfinished, fun _ _ => Exec.unfinished⟩
  | effort + 1 =>
    ⟨fun node frame host store =>
      if halts ⟨node, frame, store⟩ then .unfinished store
      else (interrupted halts effort).execNode effort node frame host store,
     fun ref args host store => (interrupted halts effort).callFunction ref args host store⟩

theorem interrupted_exec_eq (halts : RunMoment → Bool) (effort : Nat) (node : Node) (frame : FrameRef) (host : Host)
    (store : Store) : (interrupted halts (effort + 1)).exec node frame host store =
      if halts ⟨node, frame, store⟩ then .unfinished store
      else (interrupted halts effort).execNode effort node frame host store := rfl

/-- Run a program up to the first moment picked out. -/
def runUntil (halts : RunMoment → Bool) (host : Host) (effort : Nat) (nodes : List Node) : Outcome Unit :=
  (interrupted halts effort).runProgram host nodes

theorem interrupted_never (effort : Nat) : interrupted (fun _ => false) effort = evaluator effort := by
  induction effort with
  | zero => rfl
  | succ effort ih =>
    rw [interrupted, evaluator, ih]
    rfl

/-- A run that is never interrupted. -/
theorem runUntil_never (host : Host) (effort : Nat) (nodes : List Node) :
    runUntil (fun _ => false) host effort nodes = runProgram host effort nodes := by
  rw [runUntil, interrupted_never, runProgram_eq]

open Classical in
/-- A run that is interrupted at a moment only stops there, or where it does not finish anyway. -/
def RunMoment.Interrupts (moment : RunMoment) (host : Host) (effort : Nat) (nodes : List Node) : Prop :=
  runUntil (fun other => decide (other = moment)) host effort nodes = .unfinished moment.store

/-! ## Conduct of interrupted runs -/

section Conduct

variable {conduct : Conduct} {halts : RunMoment → Bool}

theorem interrupted_follows (free : conduct.Unrestricted) (effort : Nat) :
    (interrupted halts effort).Follows conduct := by
  induction effort with
  | zero => exact ⟨fun _ _ _ => follows_unfinished, fun _ _ => follows_unfinished⟩
  | succ effort ih =>
    refine ⟨fun node frame may => ⟨fun host store holds => ?_⟩, free.regime.callFunction ih.sites .ofFunction⟩
    rw [interrupted_exec_eq]
    split
    · exact holds
    · exact (free.regime.execNode ih.sites effort .ofFunction trivial may).meets host store holds

/-- A program has a habit that its nodes have at the root, and the reports on its progress. -/
theorem Habit.Settling.runNodes {ι : Type} {habit : Habit ι} (settling : habit.Settling) {ev : ι → Evaluator}
    (records : ∀ event, habit.Keeps fun _ => record event)
    (exec : ∀ node, habit.Keeps fun i => (ev i).exec node Store.root)
    (index : Nat) (nodes : List Node) : habit.Keeps fun i => (ev i).runNodes index nodes := by
  induction nodes generalizing index with
  | nil => exact settling.done ()
  | cons node rest ih =>
    refine settling.bind (records _) fun _ => settling.settle (exec node) (fun _ => ih (index + 1)) fun reason => ?_
    cases reason with
    | failure cause => exact .inr (settling.bind (records _) fun _ => settling.fail cause)
    | signal signal => exact .inr (settling.fail _)
    | fault cause => exact .inl fun _ => rfl

end Conduct

end TreeScript
