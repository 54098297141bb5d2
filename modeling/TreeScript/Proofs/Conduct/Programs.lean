import TreeScript.Program.Run
import TreeScript.Proofs.Conduct

/-! # Conduct of programs

A program follows a conduct if its nodes do, provided that the reports on its progress are within the
conduct, and the failures that signals are turned into at the top level.
-/

namespace TreeScript

/-- The conduct has room for the reports of a run and for the signals that no construct took. -/
structure Conduct.Reporting (conduct : Conduct) : Prop where
  record : ∀ {store event}, conduct.holds store → (∀ cause, event ≠ .caught cause) → conduct.holds (store.record event)
  strays : ∀ {signal place}, conduct.allows (.signal signal) →
    conduct.allows (.failure (.straySignal signal.keyword place))

namespace Conduct.Reporting

variable {conduct : Conduct} {effort : Nat}

theorem execTopLevel (reporting : conduct.Reporting) {node : Node}
    (exec : (node.exec effort Store.root).Follows conduct) (index : Nat) :
    (node.execTopLevel effort index).Follows conduct := by
  refine ⟨fun host store holds => ?_⟩
  have ends := exec.meets host store holds
  unfold Node.execTopLevel
  cases outcome : node.exec effort Store.root host store with
  | done | unfinished => rw [outcome] at ends; exact ends
  | stopped reason after =>
    rw [outcome] at ends
    cases reason with
    | failure cause => exact ⟨ends.1, reporting.record ends.2 fun _ => nofun⟩
    | fault cause => exact ends
    | signal signal => exact ⟨reporting.strays ends.1, ends.2⟩

theorem execAll (reporting : conduct.Reporting) {nodes : List Node}
    (exec : ∀ node ∈ nodes, (node.exec effort Store.root).Follows conduct) (index : Nat) :
    (execAll effort index nodes).Follows conduct := by
  induction nodes generalizing index with
  | nil => exact Exec.follows_done ()
  | cons node rest ih =>
    obtain ⟨first, others⟩ := List.forall_mem_cons.mp exec
    refine Exec.Follows.bind (Exec.follows_change fun _ holds => reporting.record holds fun _ => nofun) fun _ => ?_
    exact (reporting.execTopLevel first index).bind fun _ => ih others (index + 1)

theorem execProgram (reporting : conduct.Reporting) {nodes : List Node}
    (exec : ∀ node ∈ nodes, (node.exec effort Store.root).Follows conduct) :
    (execProgram effort nodes).Follows conduct :=
  Exec.Follows.bind (Exec.follows_change fun _ holds => reporting.record holds fun _ => nofun) fun _ =>
    reporting.execAll exec 0

end Conduct.Reporting

end TreeScript
