import Mathlib.Logic.Relation
import Mathlib.Order.Basic
import TreeScript.Proofs.Runs.History
import TreeScript.Proofs.Runs.Misreading

/-! # Interrupting a run sooner or later

A run can be interrupted at any choice of moments. Either it comes to none of them, and then they make no
difference; or one of them is the first that it comes to. In the second case every run that is interrupted
there, and at some of the others, stops there, and every run that is not goes on from there.

The faults by which executions stop are followed along the same way. Calls turn the faults of functions and
methods into failures, so what matters of those is only how they are interrupted.
-/

namespace TreeScript

open Exec

variable {α β : Type}

/-! ## Where a run can go -/

namespace Store

/-- A store that can come about from another one. -/
def LeadsTo : Store → Store → Prop := Relation.ReflTransGen (Step True)

theorem LeadsTo.refl (store : Store) : store.LeadsTo store := Relation.ReflTransGen.refl

theorem LeadsTo.trans {store middle later : Store} (first : store.LeadsTo middle) (second : middle.LeadsTo later) :
    store.LeadsTo later := Relation.ReflTransGen.trans first second

theorem LeadsTo.keepsObjects {store later : Store} (leads : store.LeadsTo later) : store.KeepsObjects later := by
  induction leads with
  | refl => exact fun _ _ => id
  | tail _ step ih => exact fun ref entries found => step.keepsObjects ref entries (ih ref entries found)

end Store

namespace Conduct

/-- All stores come about from a given one, and only some faults are allowed. -/
def tracing (origin : Store) (faults : Fault → Prop) : Conduct where
  holds := origin.LeadsTo
  writable _ := True
  makes _ := True
  allows
    | .fault cause => faults cause
    | _ => True

variable {origin : Store} {faults : Fault → Prop}

theorem tracing_lawful : (tracing origin faults).Lawful where
  addArray leads := leads.tail (.addArray _)
  addObject leads _ := leads.tail (.addObject _)
  updateArray leads := leads.tail (.updateArray _ _ (.inl trivial))
  fetchStarted leads := leads.tail (.record _)
  fetchFailed leads := leads.tail (.record _)
  write leads := leads.tail (.write _)
  request leads := leads.tail .request
  define leads _ := leads.tail (.define _ _ _)
  addFrame leads := leads.tail (.addFrame _ _)
  fresh _ := trivial
  addFunction leads _ := leads.tail (.addFunction _)
  made _ _ := trivial
  remember leads := leads.tail (.remember _ _ _)
  caught leads _ := leads.tail (.record _)
  memoHit leads := leads.tail (.record _)

theorem tracing_unrestricted : (tracing origin fun _ => True).Unrestricted where
  toLawful := tracing_lawful
  anyFunction _ := trivial
  anyReason reason := by cases reason <;> trivial

end Conduct

theorem Exec.Follows.tracing_mono {origin : Store} {faults more : Fault → Prop} {step : Exec α}
    (follows : step.Follows (.tracing origin faults)) (weaker : ∀ cause, faults cause → more cause) :
    step.Follows (.tracing origin more) := by
  refine ⟨fun host store leads => (follows.meets host store leads).mono (fun _ _ => id) ?_ fun _ => id⟩
  rintro reason after ⟨allowed, leads⟩
  cases reason with
  | fault cause => exact ⟨weaker cause allowed, leads⟩
  | _ => exact ⟨trivial, leads⟩

/-! ## Steps that can be interrupted -/

/-- Of the moments picked out, this is the first that a step comes to from a store. -/
structure Exec.StopsAt (halts : RunMoment → Bool) (host : Host) (store : Store) (moment : RunMoment)
    (step : (RunMoment → Bool) → Exec α) : Prop where
  picked : halts moment = true
  first : ∀ picks ≤ halts, picks moment = true → step picks host store = .unfinished moment.store
  leads : ∀ picks ≤ halts, moment.store.LeadsTo (step picks host store).store

/-- A step comes to none of the moments picked out, and stops by no other faults than are allowed. -/
structure Exec.Passes (halts : RunMoment → Bool) (host : Host) (allowed : Fault → Store → Prop) (store : Store)
    (step : (RunMoment → Bool) → Exec α) : Prop where
  same : ∀ picks ≤ halts, step picks host store = step (fun _ => false) host store
  faults : ∀ cause after, step (fun _ => false) host store = .stopped (.fault cause) after → allowed cause after

/-- What becomes of a step from a store. -/
def Exec.TracesFrom (halts : RunMoment → Bool) (host : Host) (allowed : Fault → Store → Prop) (store : Store)
    (step : (RunMoment → Bool) → Exec α) : Prop :=
  (∃ moment, StopsAt halts host store moment step) ∨ Passes halts host allowed store step

/-- The step is interrupted at the first moment that is picked out, wherever it starts. -/
structure Exec.Traces (halts : RunMoment → Bool) (host : Host) (allowed : Fault → Store → Prop)
    (step : (RunMoment → Bool) → Exec α) : Prop where
  follows : ∀ picks origin, (step picks).Follows (.tracing origin fun _ => True)
  ends : ∀ store, TracesFrom halts host allowed store step

namespace Exec

variable {halts : RunMoment → Bool} {host : Host} {allowed inner : Fault → Store → Prop} {store after : Store}

theorem never_le (halts : RunMoment → Bool) : (fun _ => false) ≤ halts := fun _ => Bool.false_le _

/-- What a step does is all that counts. -/
theorem TracesFrom.of_eq {step other : (RunMoment → Bool) → Exec α}
    (same : ∀ picks ≤ halts, step picks host store = other picks host after)
    (traces : TracesFrom halts host allowed after other) : TracesFrom halts host allowed store step := by
  have never := same _ (never_le halts)
  rcases traces with ⟨moment, stops⟩ | passes
  · refine .inl ⟨moment, stops.picked, fun picks le picked => ?_, fun picks le => ?_⟩
    · exact (same picks le).trans (stops.first picks le picked)
    · rw [same picks le]
      exact stops.leads picks le
  · refine .inr ⟨fun picks le => ?_, ?_⟩
    · rw [same picks le, never]
      exact passes.same picks le
    · rw [never]
      exact passes.faults

variable {step : (RunMoment → Bool) → Exec α}

/-- A step that gives a result was not interrupted. -/
theorem TracesFrom.eq_done (traces : TracesFrom halts host allowed store step) {result : α}
    (ends : step halts host store = .done result after) : step (fun _ => false) host store = .done result after := by
  rcases traces with ⟨moment, stops⟩ | passes
  · rw [stops.first halts le_rfl stops.picked] at ends
    cases ends
  · exact (passes.same halts le_rfl).symm.trans ends

/-- A step that goes on, whichever way it ends. -/
theorem TracesFrom.settle {onDone : (RunMoment → Bool) → α → Exec β}
    {onStop : (RunMoment → Bool) → Stop → Exec β} (traces : TracesFrom halts host inner store step)
    (follows : ∀ picks origin result, (onDone picks result).Follows (.tracing origin fun _ => True))
    (followsStop : ∀ picks origin reason, (onStop picks reason).Follows (.tracing origin fun _ => True))
    (results : ∀ result after, step (fun _ => false) host store = .done result after →
      TracesFrom halts host allowed after fun picks => onDone picks result)
    (stops : ∀ reason after, step (fun _ => false) host store = .stopped reason after →
      (∀ cause, reason = .fault cause → inner cause after) →
      TracesFrom halts host allowed after fun picks => onStop picks reason) :
    TracesFrom halts host allowed store fun picks => settle (step picks) (onDone picks) (onStop picks) := by
  rcases traces with ⟨moment, stopsAt⟩ | passes
  · refine .inl ⟨moment, stopsAt.picked, fun picks le picked => ?_, fun picks le => ?_⟩
    · unfold Exec.settle
      rw [stopsAt.first picks le picked]
    · refine (stopsAt.leads picks le).trans ?_
      unfold Exec.settle
      cases step picks host store with
      | done result after => exact (follows picks after result).holds_store host (.refl after)
      | stopped reason after => exact (followsStop picks after reason).holds_store host (.refl after)
      | unfinished after => exact .refl after
  · cases outcome : step (fun _ => false) host store with
    | done result after =>
      refine (results result after outcome).of_eq fun picks le => ?_
      unfold Exec.settle
      rw [passes.same picks le, outcome]
    | stopped reason after =>
      refine (stops reason after outcome fun cause same => ?_).of_eq fun picks le => ?_
      · exact passes.faults cause after (same ▸ outcome)
      · unfold Exec.settle
        rw [passes.same picks le, outcome]
    | unfinished after =>
      have ends (picks : RunMoment → Bool) (le : picks ≤ halts) :
          Exec.settle (step picks) (onDone picks) (onStop picks) host store = .unfinished after := by
        unfold Exec.settle
        rw [passes.same picks le, outcome]
      refine .inr ⟨fun picks le => (ends picks le).trans (ends _ (never_le halts)).symm, ?_⟩
      rw [ends _ (never_le halts)]
      exact nofun

/-- Steps that do not depend on how they are interrupted. -/
theorem traces_same {step : Exec α} {faults : Fault → Prop}
    (follows : ∀ origin, step.Follows (.tracing origin faults))
    (allows : ∀ cause after, faults cause → allowed cause after) :
    Traces halts host allowed fun _ => step := by
  refine ⟨fun _ origin => (follows origin).tracing_mono fun _ _ => trivial, fun store => .inr ⟨fun _ _ => rfl, ?_⟩⟩
  intro cause after stopped
  have ends := (follows store).meets host store (.refl store)
  rw [stopped] at ends
  exact allows cause after ends.1

/-- Steps that never stop by a fault. -/
theorem traces_quiet {step : Exec α} (follows : ∀ origin, step.Follows (.tracing origin fun _ => False)) :
    Traces halts host allowed fun _ => step := traces_same follows fun _ _ => False.elim

theorem traces_done (result : α) : Traces halts host allowed fun _ => done result :=
  traces_quiet fun _ => follows_done result

theorem traces_fail (cause : Failure) : Traces halts host allowed fun _ => (fail cause : Exec α) :=
  traces_quiet fun _ => follows_fail trivial

theorem traces_unfinished : Traces halts host allowed fun _ => (unfinished : Exec α) :=
  traces_quiet fun _ => follows_unfinished

theorem Traces.mono (traces : Traces halts host inner step)
    (weaker : ∀ cause after, inner cause after → allowed cause after) : Traces halts host allowed step :=
  ⟨traces.follows, fun store => (traces.ends store).imp id fun passes =>
    ⟨passes.same, fun cause after stopped => weaker cause after (passes.faults cause after stopped)⟩⟩

theorem Traces.settle {onDone : (RunMoment → Bool) → α → Exec β} {onStop : (RunMoment → Bool) → Stop → Exec β}
    (traces : Traces halts host inner step)
    (results : ∀ result, Traces halts host allowed fun picks => onDone picks result)
    (followsStop : ∀ picks origin reason, (onStop picks reason).Follows (.tracing origin fun _ => True))
    (stops : ∀ reason after, (∀ cause, reason = .fault cause → inner cause after) →
      TracesFrom halts host allowed after fun picks => onStop picks reason) :
    Traces halts host allowed fun picks => settle (step picks) (onDone picks) (onStop picks) where
  follows picks origin := (traces.follows picks origin).settle id id
    (fun result => (results result).follows picks origin) fun reason _ => followsStop picks origin reason
  ends store := (traces.ends store).settle (fun picks origin result => (results result).follows picks origin)
    followsStop (fun result after _ => (results result).ends after) fun reason after _ => stops reason after

/-- A stop passes on the fault that it is for. -/
theorem tracesFrom_stop {reason : Stop} (allows : ∀ cause, reason = .fault cause → allowed cause after) :
    TracesFrom halts host allowed after fun _ => (stop reason : Exec β) := by
  refine .inr ⟨fun _ _ => rfl, fun cause later stopped => ?_⟩
  cases stopped
  exact allows cause rfl

theorem TracesFrom.bind {next : (RunMoment → Bool) → α → Exec β}
    (traces : TracesFrom halts host allowed store step)
    (follows : ∀ picks origin result, (next picks result).Follows (.tracing origin fun _ => True))
    (rest : ∀ result after, step (fun _ => false) host store = .done result after →
      TracesFrom halts host allowed after fun picks => next picks result) :
    TracesFrom halts host allowed store fun picks => step picks >>= next picks :=
  traces.settle follows (fun _ _ reason => follows_stop (Conduct.tracing_unrestricted.anyReason reason)) rest
    fun _ _ _ => tracesFrom_stop

/-- A call turns every fault into a failure. -/
theorem Traces.hosted (traces : Traces halts host inner step) (name : String) :
    Traces halts host allowed fun picks => hosted name (step picks) := by
  simp only [hosted_eq_settle]
  refine traces.settle traces_done (fun _ origin reason => ?_) fun reason after _ => ?_
  · cases reason <;> exact follows_stop trivial
  · cases reason with
    | fault | _ => exact tracesFrom_stop nofun

end Exec

/-! ## Constructs -/

section Constructs

variable {halts : RunMoment → Bool} {host : Host} {escapes : Fault → Store → Prop}

/-- To be interrupted at the first moment that is picked out. -/
def Habit.tracing (halts : RunMoment → Bool) (host : Host) (escapes : Fault → Store → Prop) :
    Habit (RunMoment → Bool) where
  Keeps := Exec.Traces halts host escapes
  writable _ := True
  makes _ := True

theorem Habit.tracing_settling : (Habit.tracing halts host escapes).Settling where
  done := traces_done
  fail := traces_fail
  settle traces results stops := by
    refine Exec.Traces.settle traces results (fun picks origin reason => ?_) fun reason after allows => ?_
    all_goals rcases stops reason with same | keeps
    · rw [same]
      exact follows_stop (Conduct.tracing_unrestricted.anyReason reason)
    · exact keeps.follows picks origin
    · simp only [same]
      exact tracesFrom_stop allows
    · exact keeps.ends after

/-- What is too large may escape from working on values. -/
theorem Habit.tracing_sturdy (excess : ∀ cause after, cause.isExcess = true → escapes cause after) :
    (Habit.tracing halts host escapes).Sturdy :=
  have sequential : (Habit.tracing halts host escapes).Sequential :=
    ⟨traces_done, traces_unfinished, fun _ => traces_fail _, Habit.tracing_settling.bind⟩
  sequential.sturdy (fun _ => Conduct.tracing_lawful.toSturdy) (fun _ => ⟨fun _ => trivial, id⟩)
    fun follows => traces_same follows excess

theorem Habit.tracing_lawful (excess : ∀ cause after, cause.isExcess = true → escapes cause after) :
    Habit.Lawful fun _ : Unit => Habit.tracing halts host escapes where
  sturdy _ := Habit.tracing_sturdy excess
  known _ := trivial
  child _ rest := Habit.tracing_settling.bind
    (traces_quiet fun _ => follows_create fun _ => Conduct.tracing_lawful.addFrame) fun scope => rest () scope trivial
  define _ := traces_quiet fun _ => follows_define Conduct.tracing_lawful trivial
  lookup := traces_quiet fun _ => follows_lookup trivial
  catching traces handlers := Habit.tracing_settling.catching traces fun cause => Habit.tracing_settling.bind
    (traces_quiet fun _ => follows_change fun _ leads => leads.tail (.record _)) fun _ => handlers cause
  memoHit := traces_quiet fun _ => follows_change fun _ => Conduct.tracing_lawful.memoHit
  remember := traces_quiet fun _ => follows_change fun _ => Conduct.tracing_lawful.remember
  callee missing found := by
    refine Habit.tracing_settling.bind (traces_quiet fun _ => follows_read _) fun function => ?_
    cases function with
    | none => exact missing
    | some function => exact found () function trivial
  scope _ _ := trivial

theorem Habit.tracing_makesFrom (frame : FrameRef) (node : Node) :
    (Habit.tracing halts host escapes).MakesFrom frame node := fun make closure =>
  traces_quiet fun _ => Conduct.tracing_lawful.makesFrom (fun _ _ => trivial) make closure

end Constructs

/-- Nodes and calls are interrupted at the first moment that is picked out. Nodes stop by no other faults
than may escape. -/
structure Evaluator.Traces (halts : RunMoment → Bool) (host : Host) (escapes : Fault → Store → Prop)
    (ev : (RunMoment → Bool) → Evaluator) : Prop where
  exec : ∀ node frame, Exec.Traces halts host escapes fun picks => (ev picks).exec node frame
  call : ∀ ref args, Exec.Traces halts host (fun _ _ => True) fun picks => (ev picks).call ref args

namespace Evaluator.Traces

variable {halts : RunMoment → Bool} {host : Host} {escapes : Fault → Store → Prop}
  {ev : (RunMoment → Bool) → Evaluator}

variable (traces : Evaluator.Traces halts host escapes ev)

include traces

/-- Reading a property crashes over what is too large, or over digits that are no number. -/
theorem access (excess : ∀ cause after, cause.isExcess = true → escapes cause after) (frame : FrameRef)
    (target : Node) (member : Member) {key : (RunMoment → Bool) → Exec Value}
    (keys : Exec.Traces halts host escapes key) {store : Store}
    (numeral : ∀ receiver middle keyValue after text,
      (ev fun _ => false).exec target frame host store = .done receiver middle →
      key (fun _ => false) host middle = .done keyValue after → receiver.isSequence = true →
      keyValue.IsOddNumeral text → escapes (.invalidInteger (.notDecimal text)) after) :
    TracesFrom halts host escapes store fun picks => (ev picks).access frame target member (key picks) := by
  have reads {origin : Store} (receiver keyValue : Value) :
      (readProperty receiver keyValue).Follows (.tracing origin fun _ => True) :=
    follows_readProperty Conduct.tracing_unrestricted.permissive.numeric receiver keyValue
  refine ((traces.exec target frame).ends store).bind (fun picks origin receiver => ?_) ?_
  · split
    · exact follows_fail trivial
    · exact (keys.follows picks origin).bind (reads receiver)
  · intro receiver middle found
    split
    · exact (traces_fail _).ends middle
    · refine (keys.ends middle).bind (fun _ _ => reads receiver) fun keyValue after keyed => ?_
      refine .inr ⟨fun _ _ => rfl, fun cause last crashed => ?_⟩
      obtain ⟨rfl, large | ⟨text, rfl, sequence, odd⟩⟩ := readProperty_eq_fault crashed
      · exact excess cause last large
      · exact numeral receiver middle keyValue last text found keyed sequence odd

/-! ## Nodes and calls -/

theorem execNode (excess : ∀ cause after, cause.isExcess = true → escapes cause after) (effort : Nat)
    (node : Node) (frame : FrameRef) {store : Store} (numeral : ∀ receiver keyValue after text,
      node.Reads (ev fun _ => false) host frame store receiver keyValue after → receiver.isSequence = true →
      keyValue.IsOddNumeral text → escapes (.invalidInteger (.notDecimal text)) after) :
    TracesFrom halts host escapes store fun picks => (ev picks).execNode effort node frame := by
  have hosts : (Habit.tracing halts host escapes).Hosts (Habit.tracing halts host fun _ _ => True) :=
    ⟨Habit.tracing_sturdy fun _ _ _ => trivial, fun traces => traces.hosted _⟩
  have other (plain : node.isAccess = false) :
      Exec.Traces halts host escapes fun picks => (ev picks).execNode effort node frame :=
    Habit.execNode ev (fun _ _ => Habit.tracing halts host escapes) .ofFunction ()
      (fun _ => Habit.tracing_lawful excess) (fun _ => Habit.tracing_settling.inLoop) trivial (.inl trivial)
      (fun _ _ => traces_quiet fun _ => follows_jump trivial) (fun access => by simp [plain] at access)
      (fun part _ => Habit.tracing_makesFrom frame part.2) (fun part _ _ scope _ => traces.exec part.2 scope) hosts
      traces.call effort
  cases node with
  | property target name =>
    refine traces.access excess frame target (.property name) (traces_done (.string name)) ?_
    rintro receiver middle _ _ text found ⟨⟩
    exact numeral receiver _ middle text (.property name found)
  | element target key =>
    refine traces.access excess frame target .computed (traces.exec key frame) ?_
    exact fun receiver middle keyValue after text found keyed =>
      numeral receiver keyValue after text (.element found keyed)
  | _ => exact (other rfl).ends store

theorem runs (node : Node) : Habit.Runs (fun _ : Unit => Habit.tracing halts host fun _ _ => True) ev node :=
  fun _ frame _ => (traces.exec node frame).mono fun _ _ _ => trivial

theorem callClosure (function : Closure) (args : List Value) :
    Exec.Traces halts host (fun _ _ => True) fun picks => (ev picks).callClosure function args := by
  have lawful : Habit.Lawful fun _ : Unit => Habit.tracing halts host fun _ _ => True :=
    Habit.tracing_lawful fun _ _ _ => trivial
  refine lawful.callClosure (k := ()) (fun _ => Habit.tracing_settling.inCall) trivial
    (fun node _ => traces.runs node) (fun k => (lawful.sturdy k).toSequential) args

theorem callFunction (ref : FunctionRef) (args : List Value) :
    Exec.Traces halts host (fun _ _ => True) fun picks => (ev picks).callFunction ref args := by
  have lawful : Habit.Lawful fun _ : Unit => Habit.tracing halts host fun _ _ => True :=
    Habit.tracing_lawful fun _ _ _ => trivial
  refine lawful.callFunction ev (fun _ => Habit.tracing_settling.inCall)
    (fun k => (lawful.sturdy k).toSequential) (fun _ _ _ node _ => traces.runs node) (fun _ _ _ _ => trivial)
    (fun _ _ body _ _ => traces.runs body) (fun _ function args => ?_) () ref args
  exact traces_same (fun _ => Builtin.follows_call Conduct.tracing_lawful.toSturdy
    Conduct.tracing_unrestricted.permissive.tolerant function args) fun _ _ => id

end Evaluator.Traces

/-! ## Programs -/

section Programs

variable {halts : RunMoment → Bool} {host : Host} {escapes : Fault → Store → Prop}

/-- What may escape are the faults of what is too large, and digits that are no number wherever the
run is not interrupted. -/
theorem interrupted_traces (excess : ∀ cause after, cause.isExcess = true → escapes cause after)
    (misread : ∀ moment effort text after, halts moment = false → moment.Misreads host effort text after →
      escapes (.invalidInteger (.notDecimal text)) after) (effort : Nat) :
    Evaluator.Traces halts host escapes fun picks => interrupted picks effort := by
  induction effort with
  | zero => exact ⟨fun _ _ => traces_unfinished, fun _ _ => traces_unfinished⟩
  | succ effort ih =>
    refine ⟨fun node frame => ⟨fun picks origin => ?_, fun store => ?_⟩, ih.callFunction⟩
    · exact (interrupted_follows Conduct.tracing_unrestricted (effort + 1)).exec node frame (.inl trivial)
    · let here : RunMoment := ⟨node, frame, store⟩
      cases picked : halts here with
      | true =>
        refine .inl ⟨here, picked, fun picks _ here => ?_, fun picks _ => ?_⟩
        · rw [interrupted_exec_eq, if_pos here]
        · exact ((interrupted_follows Conduct.tracing_unrestricted (effort + 1)).exec node frame
            (.inl trivial)).holds_store host (.refl store)
      | false =>
        have traces : TracesFrom halts host escapes store fun picks =>
            (interrupted picks effort).execNode effort node frame := by
          refine ih.execNode excess effort node frame fun receiver keyValue after text reads sequence odd => ?_
          rw [interrupted_never] at reads
          cases odd.key
          exact misread here effort text after picked ⟨⟨receiver, sequence, reads⟩, odd.digits, odd.not_decimals⟩
        refine traces.of_eq fun picks le => ?_
        have passed : picks here = false := Bool.eq_false_of_not_eq_true fun here => by
          rw [le _ here] at picked
          cases picked
        rw [interrupted_exec_eq, if_neg (Bool.not_eq_true _ ▸ passed)]

/-- Whatever faults they stop by, runs are interrupted at the first moment that is picked out. -/
theorem interrupted_traces_all (halts : RunMoment → Bool) (host : Host) (effort : Nat) :
    Evaluator.Traces halts host (fun _ _ => True) fun picks => interrupted picks effort :=
  interrupted_traces (fun _ _ _ => trivial) (fun _ _ _ _ _ _ => trivial) effort

theorem Evaluator.Traces.runNodes {ev : (RunMoment → Bool) → Evaluator}
    (traces : Evaluator.Traces halts host escapes ev) (nodes : List Node) (index : Nat) :
    Exec.Traces halts host escapes fun picks => (ev picks).runNodes index nodes :=
  Habit.tracing_settling.runNodes (fun event => traces_quiet fun _ => follows_change fun _ leads =>
    leads.tail (.record event)) (fun node => traces.exec node Store.root) index nodes

end Programs

end TreeScript
