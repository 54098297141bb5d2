import TreeScript.Proofs.Conduct
import TreeScript.Proofs.Memo.Meaning
import TreeScript.Proofs.Scope.Lookup
import TreeScript.Proofs.Scope.Tables

/-! # Memoized functions answer as plain ones do

A self-calling function on scalars is called in a store where its cell is either a plain function or
a memoized one whose cache holds only what the function means. Both compute the meaning: whatever
the call ends with is meant, and whatever is meant is what a call ends with, given the effort. The
cache is filled while outer calls are still running, so the statement is proved together with its
invariant, by induction on the effort. Failures are not remembered; they recur because they are
part of the meaning.
-/

namespace TreeScript

variable {α β : Type}

/-! ## Answers that more effort keeps -/

namespace Answer

/-- More effort never changes an answer. -/
def Rises (answers : Nat → Answer α) : Prop := ∀ effort, (answers effort).IsBelow (answers (effort + 1))

variable {answers : Nat → Answer α}

theorem Rises.isBelow (rises : Rises answers) {effort more : Nat} (le : effort ≤ more) :
    (answers effort).IsBelow (answers more) := by
  induction le with
  | refl => exact .refl _
  | step _ ih => exact fun ending ends => rises _ ending (ih ending ends)

/-- Two answers are the same. -/
theorem Rises.unique (rises : Rises answers) {effort other : Nat} {ending otherEnding : Except Stop α}
    (ends : answers effort = some ending) (otherEnds : answers other = some otherEnding) :
    ending = otherEnding := by
  have both := rises.isBelow (Nat.le_max_left effort other) _ ends
  rw [rises.isBelow (Nat.le_max_right effort other) _ otherEnds] at both
  exact (Option.some.inj both).symm

theorem Rises.const (answer : Answer α) : Rises fun _ => answer := fun _ => .refl _

theorem Rises.bind {next : α → Nat → Answer β} (rises : Rises answers) (later : ∀ result, Rises (next result)) :
    Rises fun effort => answers effort >>= fun result => next result effort :=
  fun effort => (rises effort).bind fun result => later result effort

end Answer

namespace Recursion

/-- Nodes as they occur in the body. -/
abbrev Occurs (function : Recursion) (node : Node) : Prop :=
  node.everywhere (fun _ => Node.isSelfCalling function.name function.params) .ofFunction = true

/-- Why a host cannot remember a call: an integer among the arguments is too long to be written. -/
def IsRefused (function : Recursion) (host : Host) (reason : Stop) : Prop :=
  host.digitLimit ≠ 0 ∧ (reason = .fault (host.tooLong none) ∨
    reason = .failure (.host function.name (host.tooLong none).message))

/-- A function that a host has put into a cell, with the frame that it was made in. -/
structure Setting where
  function : Recursion
  host : Host
  ref : FunctionRef
  scope : FrameRef
  /-- Whether calls that the host cannot remember are taken to have no answer. -/
  strict : Bool

namespace Setting

variable {setting : Setting} {frame : FrameRef} {store later : Store} {effort : Nat} {values : Table Value}

/-- What the function means on the host, as far as the effort goes. -/
abbrev meaning (setting : Setting) (effort : Nat) : Meaning :=
  setting.function.denote setting.host.digitLimit (fun args => !setting.strict || setting.host.remembers args) effort

theorem rises (setting : Setting) (effort : Nat) :
    (setting.meaning effort).IsBelow (setting.meaning (effort + 1)) :=
  setting.function.denote_isBelow _ (fun _ => id) effort.le_succ

theorem rises_exec (setting : Setting) (node : Node) (values : Table Value) :
    Answer.Rises fun effort => (setting.meaning effort).exec node values :=
  fun effort => (setting.rises effort).exec node values

theorem rises_call (setting : Setting) (args : List Value) :
    Answer.Rises fun effort => (setting.meaning effort).call args :=
  fun effort => (setting.rises effort).call args

/-! ## Stores in which the function is called -/

/-- The literal as a function made in the frame. -/
def closure (setting : Setting) : Closure :=
  ⟨functionName (some setting.function.name), setting.function.params, setting.function.body, setting.scope⟩

/-- The value is what the function means on arguments with the key. -/
def IsEntry (setting : Setting) (key : String) (value : Value) : Prop :=
  value.isScalar = true ∧ ∃ args, (∀ arg ∈ args, arg.isScalar = true) ∧
    Store.initial.key? args = some key ∧ ∃ effort, (setting.meaning effort).call args = some (.ok value)

/-- What the cell of the function may hold. -/
inductive IsCell (setting : Setting) : Callable → Prop
  | plain (lax : setting.strict = false) : setting.IsCell (.closure setting.closure)
  | memoized {cache : Table Value} (memoizes : setting.host.memoizes = true)
      (entries : ∀ key value, cache.get? key = some value → setting.IsEntry key value) :
      setting.IsCell (.memoized setting.closure cache)

/-- The function is in its cell, and it can be seen by its name where it was made. -/
structure Ready (setting : Setting) (store : Store) : Prop where
  cell : ∃ callable, store.functions[setting.ref]? = some callable ∧ setting.IsCell callable
  holds : store.Holds setting.scope
  self : store.lookup? setting.scope setting.function.name = some (.function setting.ref)

/-- The frame sees the function, and the parameters with the given values. -/
structure Sees (setting : Setting) (values : Table Value) (store : Store) (frame : FrameRef) : Prop where
  holds : store.Holds frame
  self : store.lookup? frame setting.function.name = some (.function setting.ref)
  params : ∀ name ∈ setting.function.params, ∃ value, values.get? name = some value ∧
    value.isScalar = true ∧ store.lookup? frame name = some value

theorem Ready.grow (ready : setting.Ready store) (grown : store.IsGrownTo later)
    (same : later.functions = store.functions) : setting.Ready later where
  cell := same ▸ ready.cell
  holds := grown.holds ready.holds
  self := (grown.lookup? ready.holds _).trans ready.self

/-- A new entry of the cache that the function means. -/
theorem Ready.remember (ready : setting.Ready store) {key : String} {value : Value}
    (entry : setting.IsEntry key value) : setting.Ready (store.remember setting.ref key value) := by
  obtain ⟨⟨callable, found, cell⟩, holds, self⟩ := ready
  have grown : store.IsGrownTo (store.remember setting.ref key value) := .of_frames_eq rfl
  refine ⟨?_, grown.holds holds, (grown.lookup? holds _).trans self⟩
  cases cell with
  | plain lax => exact ⟨_, by simp [Store.remember, Array.getElem?_modify, found], .plain lax⟩
  | @memoized cache memoizes entries =>
    have changed : (store.remember setting.ref key value).functions[setting.ref]? =
        some (.memoized setting.closure (cache.put key value)) := by
      simp [Store.remember, Array.getElem?_modify, found]
    refine ⟨_, changed, .memoized memoizes fun other result held => ?_⟩
    by_cases same : other = key
    · subst same
      rw [Table.get?_put_self, Option.some_inj] at held
      exact held ▸ entry
    · exact entries other result (by rwa [Table.get?_put_of_ne _ _ same] at held)

theorem Sees.grow (sees : setting.Sees values store frame) (grown : store.IsGrownTo later) :
    setting.Sees values later frame where
  holds := grown.holds sees.holds
  self := (grown.lookup? sees.holds _).trans sees.self
  params name member := by
    obtain ⟨value, given, scalar, found⟩ := sees.params name member
    exact ⟨value, given, scalar, (grown.lookup? sees.holds _).trans found⟩

/-- A new scope sees what the frame around it sees. -/
theorem Sees.child (sees : setting.Sees values store frame) (label : String) :
    setting.Sees values (store.addFrame frame label).2 store.frames.size := by
  have pushed : (store.addFrame frame label).2.frames =
      store.frames.push ⟨label, store.visible frame, []⟩ := rfl
  have through (name : String) :
      (store.addFrame frame label).2.lookup? store.frames.size name = store.lookup? frame name :=
    Store.lookup?_push pushed sees.holds name
  refine ⟨Store.holds_push pushed sees.holds, (through _).trans sees.self, fun name member => ?_⟩
  obtain ⟨value, given, scalar, found⟩ := sees.params name member
  exact ⟨value, given, scalar, (through name).trans found⟩

variable {args : List Value}

/-- The frame of a call sees the function and the arguments. -/
theorem Ready.enter (ready : setting.Ready store) (scalars : ∀ arg ∈ args, arg.isScalar = true)
    (enough : args.length = setting.function.params.length) :
    setting.Sees (Table.ofList (setting.function.params.zip args))
      (store.enterClosure setting.closure args) store.frames.size := by
  have pushed := congrArg Store.frames (store.enterClosure_eq setting.closure args)
  have through := Store.lookup?_push pushed ready.holds
  refine ⟨Store.holds_push pushed ready.holds, ?_, fun name member => ?_⟩
  · rw [through, closure, Table.get?_ofList_zip_of_not_mem setting.function.unshadowed]
    exact ready.self
  · obtain ⟨value, among, found⟩ := Table.get?_ofList_zip enough member
    refine ⟨value, found, scalars value among, ?_⟩
    rw [through, closure, found]
    rfl

/-! ## Ends that are meant -/

/-- A call of the function cannot be remembered. If such calls have no answer, then there is none. -/
def Refuses (setting : Setting) (answers : Nat → Answer α) (reason : Stop) : Prop :=
  setting.host.memoizes = true ∧ setting.function.IsRefused setting.host reason ∧
    (setting.strict = true → ∀ effort, answers effort = none)

/-- The step ends as is meant, or because a call cannot be remembered, and leaves a store in which the function
can be called again. If it does not end, then the meaning does not say within this effort how it ends. -/
def meant (setting : Setting) (effort : Nat) (holds : α → Prop) (answers : Nat → Answer α) (store : Store) :
    Ending α where
  done result later := (∃ effort, answers effort = some (.ok result)) ∧ holds result ∧
    setting.Ready later ∧ store.IsGrownTo later
  stopped reason later := ((∃ effort, answers effort = some (.error reason)) ∨ setting.Refuses answers reason) ∧
    reason.isScalar = true ∧ setting.Ready later ∧ store.IsGrownTo later
  unfinished _ := answers effort = none

variable {holds : α → Prop} {goal : β → Prop} {answers : Nat → Answer α}

theorem Refuses.map {reason : Stop} {laterAnswers : Nat → Answer β}
    (silent : ∀ effort, answers effort = none → laterAnswers effort = none) (refuses : setting.Refuses answers reason) :
    setting.Refuses laterAnswers reason :=
  ⟨refuses.1, refuses.2.1, fun strict effort => silent effort (refuses.2.2 strict effort)⟩

theorem meets_ofEnd {ending : Except Stop α} (ready : setting.Ready store)
    (ends : ∃ effort, answers effort = some ending) (good : ∀ result, ending = .ok result → holds result)
    (scalar : ∀ reason, ending = .error reason → reason.isScalar = true) :
    (Outcome.ofEnd store ending).Meets (setting.meant effort holds answers store) := by
  cases ending with
  | ok result => exact ⟨ends, good result rfl, ready, .refl store⟩
  | error reason => exact ⟨.inl ends, scalar reason rfl, ready, .refl store⟩

theorem meets_pure {result : α} (ready : setting.Ready store) (good : holds result) :
    ((pure result : Exec α) setting.host store).Meets
      (setting.meant effort holds (fun _ => pure result) store) :=
  ⟨⟨0, rfl⟩, good, ready, .refl store⟩

theorem meets_stop {reason : Stop} (ready : setting.Ready store)
    (scalar : reason.isScalar = true) :
    ((Exec.stop reason : Exec α) setting.host store).Meets
      (setting.meant effort holds (fun _ => Answer.stop reason) store) :=
  ⟨.inl ⟨0, rfl⟩, scalar, ready, .refl store⟩

/-- The store may have grown before. -/
theorem meets_from {outcome : Outcome α}
    (meets : outcome.Meets (setting.meant effort holds answers later))
    (grown : store.IsGrownTo later) :
    outcome.Meets (setting.meant effort holds answers store) :=
  meets.mono (fun _ _ ends => ⟨ends.1, ends.2.1, ends.2.2.1, grown.trans ends.2.2.2⟩)
    (fun _ _ ends => ⟨ends.1, ends.2.1, ends.2.2.1, grown.trans ends.2.2.2⟩) fun _ none => none

/-- The ends of a sequence are meant if those of its steps are. -/
theorem meets_bind {step : Exec α} {next : α → Exec β} {laterAnswers : α → Nat → Answer β}
    (rises : Answer.Rises answers) (laterRises : ∀ result, Answer.Rises (laterAnswers result))
    (first : (step setting.host store).Meets (setting.meant effort holds answers store))
    (rest : ∀ result later, holds result → setting.Ready later → store.IsGrownTo later →
      (next result setting.host later).Meets
        (setting.meant effort goal (laterAnswers result) later)) :
    ((step >>= next) setting.host store).Meets (setting.meant effort goal
      (fun effort => answers effort >>= fun result => laterAnswers result effort) store) := by
  have both {result : α} {ending : Except Stop β} (ends : ∃ effort, answers effort = some (.ok result))
      (laterEnds : ∃ effort, laterAnswers result effort = some ending) :
      ∃ effort, (answers effort >>= fun result => laterAnswers result effort) = some ending := by
    obtain ⟨one, ends⟩ := ends
    obtain ⟨two, laterEnds⟩ := laterEnds
    refine ⟨max one two, ?_⟩
    rw [rises.isBelow (Nat.le_max_left one two) _ ends]
    exact (laterRises result).isBelow (Nat.le_max_right one two) _ laterEnds
  have neither {result : α} (ends : ∃ effort, answers effort = some (.ok result)) (effort : Nat)
      (none : laterAnswers result effort = none) :
      (answers effort >>= fun result => laterAnswers result effort) = Option.none := by
    cases given : answers effort with
    | none => rfl
    | some ending =>
      obtain ⟨other, otherEnds⟩ := ends
      cases rises.unique given otherEnds
      exact none
  have through {effort : Nat} {answer : Answer α} (same : answers effort = answer) :
      (answers effort >>= fun result => laterAnswers result effort) =
        answer >>= fun result => laterAnswers result effort := by
    rw [same]
  rw [Exec.meets_bind]
  refine first.mono (fun result later ends => ?_) (fun reason later ends => ?_) fun _ => through
  · obtain ⟨meansResult, good, ready, grown⟩ := ends
    refine (meets_from (rest result later good ready grown) grown).mono
      (fun _ _ ends => ⟨both meansResult ends.1, ends.2⟩) (fun _ _ ends => ⟨?_, ends.2⟩)
      fun _ => neither meansResult effort
    exact ends.1.imp (both meansResult) (.map (neither meansResult))
  · exact ⟨ends.1.imp (.imp fun _ => through) (.map fun _ => through), ends.2⟩

/-- A node or a call takes one unit of effort more than its parts. -/
theorem meets_succ {outcome : Outcome α} {answers parts : Nat → Answer α} (none : answers 0 = none)
    (unfolds : ∀ effort, answers (effort + 1) = parts effort)
    (meets : outcome.Meets (setting.meant effort holds parts store)) :
    outcome.Meets (setting.meant (effort + 1) holds answers store) := by
  have shift {ending : Except Stop α} (ends : ∃ effort, parts effort = some ending) :
      ∃ effort, answers effort = some ending := by
    obtain ⟨effort, ends⟩ := ends
    exact ⟨effort + 1, (unfolds effort).trans ends⟩
  refine meets.mono (fun _ _ ends => ⟨shift ends.1, ends.2⟩) (fun _ _ ends => ⟨?_, ends.2⟩)
    fun _ => (unfolds effort).trans
  refine ends.1.imp shift (.imp_right (.imp_right fun silent strict effort => ?_))
  cases effort with
  | zero => exact none
  | succ effort => exact (unfolds effort).trans (silent strict effort)

theorem meets_child {label : String} {next : FrameRef → Exec α} (ready : setting.Ready store)
    (sees : setting.Sees values store frame)
    (inside : ∀ later inner, setting.Ready later → setting.Sees values later inner →
      (next inner setting.host later).Meets (setting.meant effort holds answers later)) :
    ((Exec.child frame label >>= next) setting.host store).Meets
      (setting.meant effort holds answers store) := by
  have grown : store.IsGrownTo (store.addFrame frame label).2 := .of_push rfl
  exact meets_from (inside _ store.frames.size (ready.grow grown rfl) (sees.child label)) grown

/-- A call across the boundary of a function. -/
theorem meets_hosted {step : Exec α}
    (meets : (step setting.host store).Meets (setting.meant effort holds answers store)) :
    (Exec.hosted setting.function.name step setting.host store).Meets
      (setting.meant effort holds (fun effort => (answers effort).hosted setting.function.name) store) := by
  have through {ending : Except Stop α} (ends : ∃ effort, answers effort = some ending) :
      ∃ effort, (answers effort).hosted setting.function.name = Answer.hosted setting.function.name (some ending) :=
    ends.imp fun _ => congrArg (Answer.hosted setting.function.name)
  rw [Exec.hosted_eq_settle, Exec.meets_settle]
  refine meets.mono (fun _ _ ends => ⟨through ends.1, ends.2⟩) ?_ fun _ => congrArg (Answer.hosted setting.function.name)
  rintro reason later ⟨ends, scalar, kept⟩
  cases reason with
  | fault | failure =>
    refine ⟨ends.imp through ?_, rfl, kept⟩
    rintro ⟨memoizes, ⟨limited, same | same⟩, silent⟩ <;> cases same
    all_goals exact Refuses.map (fun _ => congrArg (Answer.hosted _)) ⟨memoizes, ⟨limited, .inr rfl⟩, silent⟩
  | signal signal =>
    obtain ends | ⟨-, ⟨-, same | same⟩, -⟩ := ends
    · exact ⟨.inl (through ends), scalar, kept⟩
    all_goals cases same

/-- The body of a function ends the call. -/
theorem meets_absorbReturn {name : String} {body : Exec Value} {answers : Nat → Answer Value}
    (meets : (body setting.host store).Meets
      (setting.meant effort (·.isScalar = true) answers store)) :
    (absorbReturn name body setting.host store).Meets (setting.meant effort (·.isScalar = true)
      (fun effort => (answers effort).absorbReturn name) store) := by
  have through {ending : Except Stop Value} (ends : ∃ effort, answers effort = some ending) :
      ∃ effort, (answers effort).absorbReturn name = Answer.absorbReturn name (some ending) :=
    ends.imp fun _ => congrArg (Answer.absorbReturn name)
  rw [Exec.absorbReturn_eq_settle, Exec.meets_settle]
  refine meets.mono (fun _ _ ends => ⟨through ends.1, rfl, ends.2.2⟩) ?_
    fun _ => congrArg (Answer.absorbReturn name)
  rintro reason later ⟨ends, scalar, kept⟩
  cases reason with
  | fault | failure =>
    exact ⟨ends.imp through (.map fun _ => congrArg (Answer.absorbReturn name)), rfl, kept⟩
  | signal signal =>
    obtain ends | ⟨-, ⟨-, same | same⟩, -⟩ := ends
    · cases signal with
      | returned value => exact ⟨through ends, scalar, kept⟩
      | broken | continued => exact ⟨.inl (through ends), rfl, kept⟩
    all_goals cases same

/-! ## Evaluation -/

/-- The end of a step that gives a scalar, as it is seen in the meaning. -/
abbrev gives (setting : Setting) (effort : Nat) (view : Meaning → Answer Value) (store : Store) : Ending Value :=
  setting.meant effort (·.isScalar = true) (fun effort => view (setting.meaning effort)) store

/-- An evaluator that ends as is meant, wherever the function can be called. -/
structure IsMetBy (setting : Setting) (effort : Nat) (ev : Evaluator) : Prop where
  exec : ∀ {node}, setting.function.Occurs node → ∀ {values store frame}, setting.Ready store →
    setting.Sees values store frame → (ev.exec node frame setting.host store).Meets
      (setting.gives effort (·.exec node values) store)
  call : ∀ {args : List Value}, (∀ arg ∈ args, arg.isScalar = true) →
    ∀ {store}, setting.Ready store → (ev.call setting.ref args setting.host store).Meets
      (setting.gives effort (·.call args) store)

namespace IsMetBy

variable {ev : Evaluator}

variable (met : setting.IsMetBy effort ev) (ready : setting.Ready store)
  (sees : setting.Sees values store frame)

include met ready sees

theorem runFrom {statements : List Node} (occur : ∀ node ∈ statements, setting.function.Occurs node) {last : Value}
    (scalar : last.isScalar = true) :
    (ev.runFrom frame last statements setting.host store).Meets
      (setting.gives effort (·.runFrom values last statements) store) := by
  induction statements generalizing store last with
  | nil => exact meets_pure ready scalar
  | cons node rest ih =>
    obtain ⟨first, later⟩ := List.forall_mem_cons.mp occur
    refine meets_bind (setting.rises_exec node values) (fun value effort => ?_)
      (met.exec first ready sees) fun value after good ready grown => ?_
    · exact (setting.rises effort).runFrom values value rest
    · exact ih ready (sees.grow grown) later good

theorem runInside {statements : List Node} (occur : ∀ node ∈ statements, setting.function.Occurs node)
    (label : String) :
    (ev.runInside frame label statements setting.host store).Meets
      (setting.gives effort (·.run values statements) store) :=
  meets_child ready sees fun _ _ ready sees => met.runFrom ready sees occur rfl

theorem each {nodes : List Node} (occur : ∀ node ∈ nodes, setting.function.Occurs node) :
    (Exec.each (ev.argument frame) nodes setting.host store).Meets
      (setting.meant effort (fun results => ∀ value ∈ results, value.isScalar = true)
        (fun effort => (setting.meaning effort).each values nodes) store) := by
  induction nodes generalizing store with
  | nil => exact meets_pure ready (by simp)
  | cons node rest ih =>
    obtain ⟨first, later⟩ := List.forall_mem_cons.mp occur
    have plain : ev.argument frame node = ev.exec node frame := by
      cases node with
      | function | arrow => cases (Node.everywhere_iff.mp first).1
      | _ => rfl
    rw [Exec.each, plain]
    refine meets_bind (setting.rises_exec node values) (fun value effort => ?_)
      (met.exec first ready sees) fun value after good ready grown => ?_
    · exact ((setting.rises effort).each values rest).bind fun _ => .refl _
    · refine meets_bind (fun effort => (setting.rises effort).each values rest)
        (fun _ => .const _) (ih ready (sees.grow grown) later) fun results final goods ready _ => ?_
      exact meets_pure ready (List.forall_mem_cons.mpr ⟨good, goods⟩)

theorem condition {node : Node} (occurs : setting.function.Occurs node) :
    (ev.condition node frame setting.host store).Meets (setting.meant effort (fun _ => True)
      (fun effort => (setting.meaning effort).condition node values) store) := by
  refine meets_bind (setting.rises_exec node values) (fun _ => .const _)
    (met.exec occurs ready sees) fun value after _ ready _ => ?_
  cases value with
  | bool holds => exact meets_pure ready trivial
  | _ => exact meets_stop ready rfl

theorem operate {token : String} {left right : Node} (occursLeft : setting.function.Occurs left)
    (occursRight : setting.function.Occurs right) :
    (ev.operate frame token left right setting.host store).Meets
      (setting.gives effort (·.execNode setting.host.digitLimit (.binary token left right) values) store) := by
  refine meets_bind (setting.rises_exec left values)
    (fun _ => (setting.rises_exec right values).bind fun _ => .const _)
    (met.exec occursLeft ready sees) fun leftValue after leftScalar ready grown => ?_
  refine meets_bind (setting.rises_exec right values) (fun _ => .const _)
    (met.exec occursRight ready (sees.grow grown)) fun rightValue final rightScalar ready _ => ?_
  cases known : Operator.ofToken? token with
  | none =>
    simp only [Meaning.operate, known]
    exact meets_stop ready rfl
  | some operator =>
    obtain ⟨ending, ends, good, scalar⟩ :=
      operator.isSteady_apply leftScalar rightScalar
    simp only [Meaning.operate, known, ends setting.host final rfl]
    refine meets_ofEnd ready ⟨0, ?_⟩ good scalar
    rw [ends _ _ rfl]
    cases ending <;> rfl

theorem branch {condition : Node} {thenBranch : List Node} {elseBranch : Option (List Node)}
    (occurs : setting.function.Occurs condition) (occurThen : ∀ node ∈ thenBranch, setting.function.Occurs node)
    (occurElse : ∀ node ∈ elseBranch.getD [], setting.function.Occurs node) :
    (ev.branch frame condition thenBranch elseBranch setting.host store).Meets
      (setting.gives effort (·.execNode setting.host.digitLimit (.branch condition thenBranch elseBranch) values) store) := by
  refine meets_bind (fun effort => (setting.rises effort).condition condition values)
    (fun holds effort => ?_) (met.condition ready sees occurs) fun holds after _ ready grown => ?_
  · cases holds with
    | true => exact (setting.rises effort).runFrom values _ thenBranch
    | false =>
      cases elseBranch with
      | none => exact .refl _
      | some body => exact (setting.rises effort).runFrom values _ body
  · cases holds with
    | true => exact met.runInside ready (sees.grow grown) occurThen "if"
    | false =>
      cases elseBranch with
      | none => exact meets_pure ready rfl
      | some body => exact met.runInside ready (sees.grow grown) occurElse "if"

/-- The function calls itself by its name. -/
theorem callNamed {args : List Node} (occur : ∀ node ∈ args, setting.function.Occurs node) :
    (ev.callNamed frame setting.function.name args setting.host store).Meets
      (setting.gives effort (·.execNode setting.host.digitLimit (.call setting.function.name args) values) store) := by
  have found : Exec.lookup frame setting.function.name setting.host store = .done (.function setting.ref) store := by
    simp only [Exec.lookup, sees.self]
  rw [Evaluator.callNamed, Exec.bind_of_done found]
  refine meets_bind (fun effort => (setting.rises effort).each values args)
    (fun argValues effort => ((setting.rises_call argValues) effort).map rfl)
    (met.each ready sees occur) fun argValues after scalars ready _ => ?_
  exact meets_hosted (met.call scalars ready)

theorem execNode {node : Node} (occurs : setting.function.Occurs node) (loops : Nat) :
    (ev.execNode loops node frame setting.host store).Meets
      (setting.gives effort (·.execNode setting.host.digitLimit node values) store) := by
  obtain ⟨here, inside⟩ := Node.everywhere_iff.mp occurs
  cases node with
  | literal value =>
    refine meets_pure ready ?_
    cases value with
    | symbol => cases here
    | _ => rfl
  | reference name =>
    have member : name ∈ setting.function.params := by simpa [Node.isSelfCalling] using here
    obtain ⟨value, given, scalar, found⟩ := sees.params name member
    have executed : ev.execNode loops (.reference name) frame setting.host store = .done value store := by
      change Exec.lookup frame name setting.host store = _
      rw [Exec.lookup, found]
    have means (meaning : Meaning) :
        meaning.execNode setting.host.digitLimit (.reference name) values = pure value := by
      unfold Meaning.execNode
      simp only [given]
    simp only [executed, means]
    exact ⟨⟨0, rfl⟩, scalar, ready, .refl store⟩
  | binary token left right =>
    simp only [Node.parts, List.forall_mem_cons] at inside
    exact met.operate ready sees inside.1 inside.2.1
  | branch condition thenBranch elseBranch =>
    simp only [Node.parts, List.forall_mem_cons, List.forall_mem_map, List.forall_mem_append] at inside
    exact met.branch ready sees inside.1 inside.2.1 inside.2.2
  | giveBack expression =>
    cases expression with
    | none => exact ⟨.inl ⟨0, rfl⟩, rfl, ready, .refl store⟩
    | some expression =>
      refine meets_bind (setting.rises_exec expression values) (fun _ => .const _)
        (met.exec (inside (.ofFunction, expression) (by simp [Node.parts])) ready sees) ?_
      exact fun value after scalar ready _ => meets_stop ready scalar
  | call name args =>
    simp only [Node.parts, List.forall_mem_map] at inside
    obtain rfl : name = setting.function.name := by simpa [Node.isSelfCalling] using here
    exact met.callNamed ready sees inside
  | _ => cases here

omit sees in
/-- The call of the literal itself. -/
theorem callClosure (scalars : ∀ arg ∈ args, arg.isScalar = true) :
    (ev.callClosure setting.closure args setting.host store).Meets
      (setting.gives effort (setting.function.callSelf · args) store) := by
  unfold callSelf
  by_cases enough : args.length = setting.closure.params.length
  · have entered := store.enterClosure_eq setting.closure args
    have grown : store.IsGrownTo (store.enterClosure setting.closure args) :=
      .of_push (congrArg Store.frames entered)
    have sees := ready.enter scalars enough
    rw [Evaluator.callClosure_eq _ _ _ enough]
    simp only [show args.length = setting.function.params.length from enough, if_true]
    refine meets_from (meets_absorbReturn ?_) grown
    exact met.runFrom (ready.grow grown (by rw [entered])) sees
      (allEverywhere_iff.mp setting.function.selfCalling) rfl
  · rw [Evaluator.callClosure, if_neg enough]
    simp only [show ¬args.length = setting.function.params.length from enough, if_false]
    exact meets_stop ready rfl

omit sees in
/-- A memoized call is answered from the cache with what is meant, or it adds what is meant. -/
theorem callMemoized (scalars : ∀ arg ∈ args, arg.isScalar = true) {cache : Table Value}
    (memoizes : setting.host.memoizes = true)
    (entries : ∀ key value, cache.get? key = some value → setting.IsEntry key value) :
    (ev.callMemoized setting.ref setting.closure cache args setting.host store).Meets
      (setting.gives (effort + 1) (·.call args) store) := by
  obtain ⟨key, known, keyed⟩ := Exec.keyOf_of_scalars scalars setting.host store
  cases remembers : setting.host.remembers args with
  | true =>
    rw [remembers] at keyed
    cases held : cache.get? key with
    | some result =>
      obtain ⟨scalar, others, otherScalars, otherKey, means⟩ := entries key result held
      obtain rfl : args = others := eq_of_key?_eq scalars otherScalars (known.trans otherKey.symm)
      rw [Evaluator.callMemoized_of_hit keyed held]
      exact ⟨means, scalar, ready.grow (.of_frames_eq rfl) rfl, .of_frames_eq rfl⟩
    | none =>
      have called : (ev.callClosure setting.closure args setting.host store).Meets
          (setting.gives (effort + 1) (·.call args) store) :=
        meets_succ rfl (fun _ => if_pos (by simp [remembers])) (met.callClosure ready scalars)
      rw [Evaluator.callMemoized_of_miss keyed held]
      refine Exec.meets_bind.mpr (called.mono ?_ (fun _ _ ends => ends) fun _ ends => ends)
      rintro result later ⟨means, scalar, ready, grown⟩
      have entry : setting.IsEntry key result := ⟨scalar, args, scalars, known, means⟩
      exact ⟨means, scalar, ready.remember entry, grown.trans (.of_frames_eq rfl)⟩
  | false =>
    rw [remembers] at keyed
    rw [Evaluator.callMemoized_of_stopped keyed]
    refine ⟨.inr ⟨memoizes, ⟨fun unlimited => ?_, .inl rfl⟩, fun strict effort => ?_⟩, rfl, ready, .refl store⟩
    · simp [Host.remembers, Host.writes, unlimited] at remembers
    · cases effort with
      | zero => rfl
      | succ effort => exact if_neg (by simp [strict, remembers])

omit sees in
theorem callFunction (scalars : ∀ arg ∈ args, arg.isScalar = true) :
    (ev.callFunction setting.ref args setting.host store).Meets
      (setting.gives (effort + 1) (·.call args) store) := by
  obtain ⟨callable, found, cell⟩ := ready.cell
  rw [Evaluator.callFunction_eq found]
  cases cell with
  | plain lax => exact meets_succ rfl (fun _ => if_pos (by simp [lax])) (met.callClosure ready scalars)
  | memoized memoizes entries => exact met.callMemoized ready scalars memoizes entries

end IsMetBy

/-- The evaluator ends as is meant, wherever the function can be called. -/
theorem isMetBy_evaluator (setting : Setting) (effort : Nat) : setting.IsMetBy effort (evaluator effort) := by
  induction effort with
  | zero => exact ⟨fun _ _ _ _ _ _ => rfl, fun _ _ _ => rfl⟩
  | succ effort ih =>
    refine ⟨fun occurs _ _ _ ready sees => ?_, fun scalars _ ready => ?_⟩
    · exact meets_succ rfl (fun _ => rfl) (ih.execNode ready sees occurs effort)
    · exact ih.callFunction ready scalars

/-- Whatever a call ends with is meant, or the call is refused. -/
theorem means_of_answer (ready : setting.Ready store) (scalars : ∀ arg ∈ args, arg.isScalar = true)
    {ending : Except Stop Value}
    (ends : (callWithin effort setting.ref args setting.host store).answer = some ending) :
    ((∃ effort, (setting.meaning effort).call args = some ending) ∨ ∃ reason, ending = .error reason ∧
      setting.Refuses (fun effort => (setting.meaning effort).call args) reason) ∧
      setting.Ready (callWithin effort setting.ref args setting.host store).store := by
  have meets := (setting.isMetBy_evaluator effort).call scalars ready
  change (callWithin effort setting.ref args setting.host store).Meets _ at meets
  cases outcome : callWithin effort setting.ref args setting.host store with
  | done =>
    rw [outcome] at meets ends
    cases ends
    exact ⟨.inl meets.1, meets.2.2.1⟩
  | stopped reason =>
    rw [outcome] at meets ends
    cases ends
    exact ⟨meets.1.imp_right fun refuses => ⟨reason, rfl, refuses⟩, meets.2.2.1⟩
  | unfinished later =>
    rw [outcome] at ends
    cases ends

/-- Where an end is meant, a call ends within the same effort. -/
theorem exists_answer (ready : setting.Ready store) (scalars : ∀ arg ∈ args, arg.isScalar = true)
    {ending : Except Stop Value} (means : (setting.meaning effort).call args = some ending) :
    ∃ answer, (callWithin effort setting.ref args setting.host store).answer = some answer := by
  have meets := (setting.isMetBy_evaluator effort).call scalars ready
  change (callWithin effort setting.ref args setting.host store).Meets _ at meets
  cases outcome : callWithin effort setting.ref args setting.host store with
  | done | stopped => exact ⟨_, rfl⟩
  | unfinished later =>
    rw [outcome] at meets
    cases means.symm.trans meets

end Setting

/-! ## Declared functions -/

variable {frame : FrameRef} {store later : Store} {host : Host}

/-- The declaration of the function, marked pure. -/
def declaration (function : Recursion) (paramTypes : Option (List Ty)) (returnType : Option Ty) : Node :=
  .declare "function" function.name
    (.function (some function.name) function.params function.body paramTypes returnType true)

/-- After its declaration the function can be called, whether it is memoized or not. -/
theorem exec_declaration (function : Recursion) (paramTypes : Option (List Ty)) (returnType : Option Ty)
    (effort : Nat) (host : Host) (holds : store.Holds frame) :
    let closure : Closure := ⟨functionName (some function.name), function.params, function.body, frame⟩
    ∃ later, (function.declaration paramTypes returnType).exec (effort + 1) frame host store =
        .done (.function store.functions.size) later ∧
      later.functions[store.functions.size]? =
        some (if host.memoizes then .memoized closure [] else .closure closure) ∧
      ∀ strict, (strict = true → host.memoizes = true) →
        Setting.Ready ⟨function, host, store.functions.size, frame, strict⟩ later := by
  intro closure
  let cell : Callable := if host.memoizes then .memoized closure [] else .closure closure
  let added := (store.addFunction cell).2
  have executed : (function.declaration paramTypes returnType).exec (effort + 1) frame host store =
      .done (.function store.functions.size)
        (added.define frame function.name (.function store.functions.size)) := rfl
  have found : (added.define frame function.name (.function store.functions.size)).functions[store.functions.size]? =
      some cell := Array.getElem?_push_size
  have held : added.Holds frame := ⟨holds.inside, holds.around⟩
  refine ⟨_, executed, found, fun strict fits =>
    ⟨⟨_, found, ?_⟩, held.define _ _, Store.lookup?_define_self held.inside _ _⟩⟩
  cases memoizes : host.memoizes with
  | true =>
    simp only [cell, memoizes, if_true]
    exact .memoized memoizes (by simp)
  | false =>
    simp only [cell, memoizes, Bool.false_eq_true, if_false]
    exact .plain (by simpa [memoizes] using fits)

/-- The stores that calls of the function on scalars lead to, one call after the other. -/
inductive CallsLead (host : Host) (ref : FunctionRef) (start : Store) : Store → Prop
  | none : CallsLead host ref start start
  | call {store : Store} {effort : Nat} {args : List Value} {ending : Except Stop Value}
      (before : CallsLead host ref start store) (scalars : ∀ arg ∈ args, arg.isScalar = true)
      (ends : (callWithin effort ref args host store).answer = some ending) :
      CallsLead host ref start (callWithin effort ref args host store).store

theorem Setting.Ready.callsLead {setting : Setting} (ready : setting.Ready store)
    (lead : CallsLead setting.host setting.ref store later) : setting.Ready later := by
  induction lead with
  | none => exact ready
  | call _ scalars ends ih => exact (means_of_answer ih scalars ends).2

/-- A call ends as a host cannot write an integer that it is to remember a call by. The end hangs on calls with such
integers: without them there is no answer. -/
def EndsOnLong (function : Recursion) (host : Host) (args : List Value) (ending : Except Stop Value) : Prop :=
  ∃ reason, ending = .error reason ∧ function.IsRefused host reason ∧
    ∀ effort, (function.denote host.digitLimit host.remembers effort).call args = none

/-- The numbers of Fibonacci. -/
def fibonacci : Recursion where
  name := "fib"
  params := ["n"]
  body := [
    .branch (.binary "<" (.reference "n") (.literal (.number (.int 2)))) [.giveBack (some (.reference "n"))] none,
    .giveBack (some (.binary "+"
      (.call "fib" [.binary "-" (.reference "n") (.literal (.number (.int 1)))])
      (.call "fib" [.binary "-" (.reference "n") (.literal (.number (.int 2)))])))]
  unshadowed := by decide
  selfCalling := by decide

/-- The number one, whatever is asked. -/
def always : Recursion where
  name := "one"
  params := ["n"]
  body := [.giveBack (some (.literal (.number (.int 1))))]
  unshadowed := by decide
  selfCalling := by decide

end Recursion

end TreeScript
