import TreeScript.Proofs.Conduct.Values
import TreeScript.Proofs.Tree.Sites

/-! # What constructs have from their parts

Much that is known of execution passes from the parts of a construct to the whole: that steps keep to a
conduct, or that variants of a step differ only in where they are interrupted. A *habit* is such a property,
of all variants of a step at once. A construct has a habit if the parts that it executes have it. Where a
construct takes jumps itself, its body has a habit of its own: a loop takes `break` and `continue`, a call
takes `return` and turns the other signals into failures.

What is known of the store may grow on the way, as frames are made and the functions that are called turn out
to be there. So the laws are those of a whole family of habits, and what is done in a new frame, or by a
function, may have any habit of the family that knows of it.
-/

namespace TreeScript

variable {ι κ α β : Type}

/-- A property of steps that are given in variants. -/
structure Habit (ι : Type) where
  /-- The steps that have the habit. -/
  Keeps : {α : Type} → (ι → Exec α) → Prop
  /-- The frames in which names may be bound. -/
  writable : FrameRef → Prop
  /-- The functions that may be made. -/
  makes : Callable → Prop
  /-- The frames in which others may be made. -/
  knows : FrameRef → Prop := fun _ => True

/-- The frame that a function was made in. -/
def Callable.scope? : Callable → Option FrameRef
  | builtin _ => none
  | closure function | memoized function _ => some function.scope
  | arrow _ _ scope => some scope

/-- The three entries of the description of a failure have different names. -/
theorem Failure.nodup_keys_entries (cause : Failure) : cause.entries.keys.Nodup := by
  simp [Failure.entries, Table.keys]

namespace Habit

/-- Steps with the habit can follow each other. -/
structure Sequential (habit : Habit ι) : Prop where
  done : ∀ {α} (result : α), habit.Keeps fun _ => Exec.done result
  unfinished : ∀ {α}, habit.Keeps fun _ => (Exec.unfinished : Exec α)
  fail : ∀ {α cause}, cause.isOrdinary = true → habit.Keeps fun _ => (Exec.fail cause : Exec α)
  bind : ∀ {α β} {step : ι → Exec α} {next : ι → α → Exec β}, habit.Keeps step →
    (∀ result, habit.Keeps fun i => next i result) → habit.Keeps fun i => step i >>= next i

/-- Working on values has the habit. -/
structure Sturdy (habit : Habit ι) : Prop extends habit.Sequential where
  read : ∀ {α} {view : Store → α}, habit.Keeps fun _ => Exec.read view
  spell : ∀ {α} {view : Host → Store → Option α} {integers}, habit.Keeps fun _ => Exec.spell view integers
  ensureReadable : ∀ {digits}, habit.Keeps fun _ => Exec.ensureReadable digits
  ofArithmetic : ∀ {α} {answer : Except ArithmeticFault α}, habit.Keeps fun _ => Exec.ofArithmetic answer
  newArray : ∀ {elements}, habit.Keeps fun _ => Exec.newArray elements
  newObject : ∀ {entries : Table Value}, entries.keys.Nodup → habit.Keeps fun _ => Exec.newObject entries
  updateArray : ∀ {ref change}, habit.Keeps fun _ => Exec.change (·.updateArray ref change)
  operator : ∀ (operator : Operator) left right, habit.Keeps fun _ => operator.apply left right
  writeElement : ∀ target index value, habit.Keeps fun _ => TreeScript.writeElement target index value

/-- The steps that do not execute other ones have each habit, within what is writable, may be made and is
known. -/
structure Lawful (habit : κ → Habit ι) : Prop where
  sturdy : ∀ k, (habit k).Sturdy
  known : ∀ {k frame}, (habit k).writable frame → (habit k).knows frame
  child : ∀ {k α parent label} {next : ι → FrameRef → Exec α}, (habit k).knows parent →
    (∀ m scope, (habit m).writable scope → (habit m).Keeps fun i => next i scope) →
    (habit k).Keeps fun i => Exec.child parent label >>= next i
  define : ∀ {k frame name value}, (habit k).writable frame → (habit k).Keeps fun _ => Exec.define frame name value
  lookup : ∀ {k frame name}, (habit k).Keeps fun _ => Exec.lookup frame name
  catching : ∀ {k} {step : ι → Exec Value} {next : ι → Failure → Exec Value}, (habit k).Keeps step →
    (∀ cause, (habit k).Keeps fun i => next i cause) → (habit k).Keeps fun i => Exec.catching (step i) fun cause => do
      Exec.record (.caught cause)
      next i cause
  memoHit : ∀ {k hit}, (habit k).Keeps fun _ => Exec.record (.memoHit hit)
  remember : ∀ {k ref key result}, (habit k).Keeps fun _ => Exec.change (·.remember ref key result)
  /-- The functions in the store are such as may be made. -/
  callee : ∀ {k} {ref : FunctionRef} {next : ι → Option Callable → Exec Value}, ((habit k).Keeps fun i => next i none) →
    (∀ m function, (habit m).makes function → (habit m).Keeps fun i => next i (some function)) →
    (habit k).Keeps fun i => Exec.read (·.functions[ref]?) >>= next i
  scope : ∀ {k function scope}, (habit k).makes function → function.scope? = some scope → (habit k).knows scope

/-- `inner` is a habit for calls, whose faults become failures. -/
structure Hosts (habit inner : Habit ι) : Prop where
  sturdy : inner.Sturdy
  hosted : ∀ {name} {step : ι → Exec Value}, inner.Keeps step → habit.Keeps fun i => Exec.hosted name (step i)

/-- `inner` is a habit for the body of a loop. -/
structure InLoop (habit inner : Habit ι) : Prop where
  writable : ∀ {frame}, habit.writable frame → inner.writable frame
  absorbJumps : ∀ {body : ι → Exec Value}, inner.Keeps body → ∀ last,
    habit.Keeps fun i => TreeScript.absorbJumps last (body i)

/-- `inner` is a habit for the body of a function literal. -/
structure InCall (habit inner : Habit ι) : Prop where
  writable : ∀ {frame}, habit.writable frame → inner.writable frame
  absorbReturn : ∀ {name} {body : ι → Exec Value}, inner.Keeps body →
    habit.Keeps fun i => TreeScript.absorbReturn name (body i)

/-- Whichever way a step with the habit ends, it may go on with the habit; a stop may also be passed on. -/
structure Settling (habit : Habit ι) : Prop where
  done : ∀ {α} (result : α), habit.Keeps fun _ => Exec.done result
  fail : ∀ {α} cause, habit.Keeps fun _ => (Exec.fail cause : Exec α)
  settle : ∀ {α β} {step : ι → Exec α} {onDone : ι → α → Exec β} {onStop : ι → Stop → Exec β}, habit.Keeps step →
    (∀ result, habit.Keeps fun i => onDone i result) →
    (∀ reason, (∀ i, onStop i reason = Exec.stop reason) ∨ habit.Keeps fun i => onStop i reason) →
    habit.Keeps fun i => Exec.settle (step i) (onDone i) (onStop i)

/-- The node has each habit wherever it is executed. -/
def Runs (habit : κ → Habit ι) (ev : ι → Evaluator) (node : Node) : Prop :=
  ∀ k frame, (habit k).writable frame → (habit k).Keeps fun i => (ev i).exec node frame

/-- The function that a node makes, if it makes one, is made with the habit. -/
def MakesFrom (habit : Habit ι) (frame : FrameRef) (node : Node) : Prop :=
  ∀ make, closureOf? frame node = some make → habit.Keeps fun _ => make

variable {habit : Habit ι} {ev : ι → Evaluator} {frame : FrameRef} {node : Node} {body : List Node}

theorem argument (makes : habit.MakesFrom frame node) (exec : habit.Keeps fun i => (ev i).exec node frame) :
    habit.Keeps fun i => (ev i).argument frame node := by
  unfold Evaluator.argument
  cases closure : closureOf? frame node with
  | some make => exact makes make closure
  | none => exact exec

namespace Settling

variable (settling : habit.Settling)

include settling

theorem bind {step : ι → Exec α} {next : ι → α → Exec β} (keeps : habit.Keeps step)
    (rest : ∀ result, habit.Keeps fun i => next i result) : habit.Keeps fun i => step i >>= next i :=
  settling.settle keeps rest fun _ => .inl fun _ => rfl

theorem catching {step : ι → Exec α} {handler : ι → Failure → Exec α} (keeps : habit.Keeps step)
    (handles : ∀ cause, habit.Keeps fun i => handler i cause) :
    habit.Keeps fun i => Exec.catching (step i) (handler i) := by
  simp only [Exec.catching_eq_settle]
  refine settling.settle keeps settling.done fun reason => ?_
  cases reason with
  | failure cause => exact .inr (handles cause)
  | _ => exact .inl fun _ => rfl

theorem inLoop : habit.InLoop habit where
  writable := id
  absorbJumps body last := by
    simp only [Exec.absorbJumps_eq_settle]
    refine settling.settle body (fun _ => settling.done _) fun reason => ?_
    cases reason with
    | signal signal =>
      cases signal with
      | returned => exact .inl fun _ => rfl
      | broken | continued => exact .inr (settling.done _)
    | _ => exact .inl fun _ => rfl

theorem inCall : habit.InCall habit where
  writable := id
  absorbReturn body := by
    simp only [Exec.absorbReturn_eq_settle]
    refine settling.settle body (fun _ => settling.done _) fun reason => ?_
    cases reason with
    | signal signal =>
      cases signal with
      | returned => exact .inr (settling.done _)
      | broken | continued => exact .inr (settling.fail _)
    | _ => exact .inl fun _ => rfl

end Settling

namespace Sequential

variable (sequential : habit.Sequential)

include sequential

theorem each {step : ι → α → Exec β} {items : List α} (steps : ∀ item ∈ items, habit.Keeps fun i => step i item) :
    habit.Keeps fun i => Exec.each (step i) items := by
  induction items with
  | nil => exact sequential.done []
  | cons item rest ih =>
    refine sequential.bind (steps item List.mem_cons_self) fun result => ?_
    refine sequential.bind (ih fun other member => steps other (List.mem_cons_of_mem _ member)) fun results => ?_
    exact sequential.done (result :: results)

theorem repeatRounds {round : ι → β → Exec (Exec.Round β)} (rounds : ∀ state, habit.Keeps fun i => round i state)
    (effort : Nat) (state : β) : habit.Keeps fun i => Exec.repeatRounds (round i) effort state := by
  induction effort generalizing state with
  | zero => exact sequential.unfinished
  | succ effort ih =>
    simp only [Exec.repeatRounds_succ]
    refine sequential.bind (rounds state) fun result => ?_
    cases result with
    | again next => exact ih next
    | finished last => exact sequential.done last

theorem runFrom (exec : ∀ node ∈ body, habit.Keeps fun i => (ev i).exec node frame) (last : Value) :
    habit.Keeps fun i => (ev i).runFrom frame last body := by
  induction body generalizing last with
  | nil => exact sequential.done last
  | cons node rest ih =>
    refine sequential.bind (exec node List.mem_cons_self) fun value => ?_
    exact ih (fun other member => exec other (List.mem_cons_of_mem _ member)) value

theorem run (exec : ∀ node ∈ body, habit.Keeps fun i => (ev i).exec node frame) :
    habit.Keeps fun i => (ev i).run frame body := sequential.runFrom exec _

theorem condition (exec : habit.Keeps fun i => (ev i).exec node frame) :
    habit.Keeps fun i => (ev i).condition node frame := by
  refine sequential.bind exec fun value => ?_
  split
  · exact sequential.done _
  · exact sequential.fail rfl

end Sequential

namespace Sturdy

variable {call : ι → Caller} (sturdy : habit.Sturdy)

include sturdy

theorem applyText (method : TextMethod) (target : String) (args : List Value) :
    habit.Keeps fun _ => method.apply target args := by
  have bound (length ending : Nat) (value : Value) : habit.Keeps fun _ => TextMethod.bound length ending value := by
    unfold TextMethod.bound
    split
    · exact sturdy.done _
    · exact sturdy.bind sturdy.spell fun _ => sturdy.done _
  cases method with
  | slice => exact sturdy.bind (bound _ _ _) fun start => sturdy.bind (bound _ _ _) fun stop => sturdy.done _
  | parseInt => exact sturdy.bind sturdy.ensureReadable fun _ => sturdy.done _
  | _ => exact sturdy.done _

/-- Mapping and filtering have the habit if the calls that they make do. -/
theorem applyArray (calls : ∀ ref args, habit.Keeps fun i => call i ref args) (method : ArrayMethod)
    (target : ArrayRef) (args : List Value) : habit.Keeps fun i => method.apply (call i) target args := by
  have callback (method : ArrayMethod) : habit.Keeps fun _ => method.callback args := by
    unfold ArrayMethod.callback
    split
    · exact sturdy.done _
    · exact sturdy.fail rfl
  cases method with
  | length => exact sturdy.bind sturdy.read fun _ => sturdy.done _
  | push => exact sturdy.bind sturdy.updateArray fun _ => sturdy.bind sturdy.read fun _ => sturdy.done _
  | pop => exact sturdy.bind sturdy.read fun last => sturdy.bind sturdy.updateArray fun _ => sturdy.done _
  | map =>
    refine sturdy.bind (callback _) fun ref => sturdy.bind sturdy.read fun elements => ?_
    exact sturdy.bind (sturdy.each fun element _ => calls ref [element]) fun results => sturdy.newArray
  | filter =>
    refine sturdy.bind (callback _) fun ref => sturdy.bind sturdy.read fun elements => ?_
    refine sturdy.bind (sturdy.each fun element _ => ?_) fun kept => sturdy.newArray
    exact sturdy.bind (calls ref [element]) fun verdict => sturdy.bind sturdy.ofArithmetic fun _ => sturdy.done _

theorem applyMethod (call : ι → Caller) (calls : ∀ ref args, habit.Keeps fun i => call i ref args)
    (target : Value) (name : String) (args : List Value) : habit.Keeps fun i => TreeScript.applyMethod (call i) target name args := by
  unfold TreeScript.applyMethod
  split
  · exact sturdy.fail rfl
  · exact sturdy.fail rfl
  · split
    · exact sturdy.applyText _ _ args
    · exact sturdy.fail rfl
  · split
    · exact sturdy.applyArray calls _ _ args
    · exact sturdy.fail rfl
  · split
    · exact sturdy.bind sturdy.spell fun _ => sturdy.done _
    · exact sturdy.fail rfl
  · split
    · exact sturdy.bind sturdy.spell fun _ => sturdy.done _
    · exact sturdy.fail rfl
  · refine sturdy.bind sturdy.read fun entries => ?_
    split
    · exact calls _ args
    · exact sturdy.fail rfl
  · exact sturdy.fail rfl

end Sturdy

namespace Lawful

variable {habit inner : κ → Habit ι} {k : κ} (lawful : Lawful habit)

include lawful

theorem bindAll (may : (habit k).writable frame) (names : List String) (values : List Value) :
    (habit k).Keeps fun _ => TreeScript.bindAll frame names values := by
  have law := lawful.sturdy k
  induction names generalizing values with
  | nil => exact law.done ()
  | cons name names ih =>
    cases values with
    | nil => exact law.done ()
    | cons value values => exact law.bind (lawful.define may) fun _ => ih values

/-- Statements in a scope of their own need not be allowed to write the frame around them. -/
theorem runInside {label : String} (known : (habit k).knows frame) (exec : ∀ node ∈ body, Runs habit ev node) :
    (habit k).Keeps fun i => (ev i).runInside frame label body :=
  lawful.child known fun m scope may => (lawful.sturdy m).run fun node member => exec node member m scope may

theorem tryCatch {tryBlock catchBlock : List Node} {catchVar : String} (known : (habit k).knows frame)
    (ofTry : ∀ part ∈ tryBlock, Runs habit ev part) (ofCatch : ∀ part ∈ catchBlock, Runs habit ev part) :
    (habit k).Keeps fun i =>
      Exec.catching ((ev i).runInside frame "try" tryBlock) ((ev i).handle frame catchVar catchBlock) := by
  refine lawful.catching (lawful.runInside known ofTry) fun cause => lawful.child known fun m scope may => ?_
  have law := lawful.sturdy m
  refine law.bind (law.newObject cause.nodup_keys_entries) fun description => ?_
  exact law.bind (lawful.define may) fun _ => law.run fun part member => ofCatch part member m scope may

theorem perform {part : Option Node} (may : (habit k).writable frame)
    (ofPart : ∀ node ∈ part.toList, Runs habit ev node) : (habit k).Keeps fun i => (ev i).perform frame part := by
  have law := lawful.sturdy k
  cases part with
  | none => exact law.done ()
  | some node => exact law.bind (ofPart node List.mem_cons_self k frame may) fun _ => law.done ()

/-! ## Calls -/

/-- A function literal is called in a frame of its own, and takes the `return` of its body. -/
theorem callClosure (inCall : ∀ k, (habit k).InCall (inner k)) {function : Closure}
    (known : (habit k).knows function.scope)
    (exec : ∀ node ∈ function.body, Runs inner ev node) (sequential : ∀ k, (inner k).Sequential) (args : List Value) :
    (habit k).Keeps fun i => (ev i).callClosure function args := by
  unfold Evaluator.callClosure
  split
  · refine lawful.child known fun m scope may => (lawful.sturdy m).bind (lawful.bindAll may _ _) fun _ => ?_
    refine (inCall m).absorbReturn ((sequential m).run fun node member => ?_)
    exact exec node member m scope ((inCall m).writable may)
  · exact (lawful.sturdy k).fail rfl

theorem callArrow {outer : FrameRef} (known : (habit k).knows outer) (exec : Runs habit ev node)
    (params : List String) (args : List Value) : (habit k).Keeps fun i => (ev i).callArrow params node outer args :=
  lawful.child known fun m scope may =>
    (lawful.sturdy m).bind (lawful.bindAll may _ _) fun _ => exec m scope may

theorem callMemoized {ref : FunctionRef} {function : Closure} {cache : Table Value} {args : List Value}
    (call : (habit k).Keeps fun i => (ev i).callClosure function args) :
    (habit k).Keeps fun i => (ev i).callMemoized ref function cache args := by
  have law := lawful.sturdy k
  refine law.bind law.spell fun key => ?_
  split
  · exact law.bind lawful.memoHit fun _ => law.done _
  · exact law.bind call fun result => law.bind lawful.remember fun _ => law.done _

/-- Whatever function a cell holds, it is one that may be made. -/
theorem callFunction (ev : ι → Evaluator) (inCall : ∀ k, (habit k).InCall (inner k))
    (sequential : ∀ k, (inner k).Sequential)
    (literals : ∀ k function, (habit k).makes (.closure function) → ∀ node ∈ function.body, Runs inner ev node)
    (memoized : ∀ k function cache, (habit k).makes (.memoized function cache) → (habit k).makes (.closure function))
    (arrows : ∀ k params body outer, (habit k).makes (.arrow params body outer) → Runs habit ev body)
    (builtins : ∀ k (function : Builtin) args, (habit k).Keeps fun _ => function.call args)
    (k : κ) (ref : FunctionRef) (args : List Value) : (habit k).Keeps fun i => (ev i).callFunction ref args := by
  have closures (m : κ) (function : Closure) (made : (habit m).makes (.closure function)) :
      (habit m).Keeps fun i => (ev i).callClosure function args :=
    lawful.callClosure inCall (lawful.scope made rfl) (literals m function made) sequential args
  refine lawful.callee (lawful.sturdy k).unfinished fun m function made => ?_
  cases function with
  | builtin function => exact builtins m function args
  | closure function => exact closures m function made
  | memoized function cache => exact lawful.callMemoized (closures m function (memoized m function cache made))
  | arrow params body outer =>
    exact lawful.callArrow (lawful.scope made rfl) (arrows m params body outer made) params args

/-! ## Names and expressions -/

section Here

variable (may : (habit k).writable frame)

include may

theorem declare {kind name : String} (makes : (habit k).MakesFrom frame node) (exec : Runs habit ev node) :
    (habit k).Keeps fun i => (ev i).declare frame kind name node := by
  have law := lawful.sturdy k
  have bound (value : Value) : (habit k).Keeps fun _ => do
      Exec.define frame name value
      return value := law.bind (lawful.define may) fun _ => law.done value
  unfold Evaluator.declare
  split
  · exact law.fail rfl
  · split
    · exact law.fail rfl
    · next make closure => exact law.bind (makes make closure) bound
  · refine law.bind (exec k frame may) fun value => ?_
    split
    · exact bound value
    · exact law.fail rfl

theorem assign {name : String} (exec : Runs habit ev node) :
    (habit k).Keeps fun i => (ev i).assign frame name node := by
  have law := lawful.sturdy k
  refine law.bind lawful.lookup fun _ => law.bind (exec k frame may) fun value => ?_
  exact law.bind (lawful.define may) fun _ => law.done value

variable {args : List Node}

theorem arguments (makes : ∀ node ∈ args, (habit k).MakesFrom frame node) (exec : ∀ node ∈ args, Runs habit ev node) :
    (habit k).Keeps fun i => Exec.each ((ev i).argument frame) args :=
  (lawful.sturdy k).each fun node member => argument (makes node member) (exec node member k frame may)

variable {calling : Habit ι}

theorem callNamed {name : String} (makes : ∀ node ∈ args, (habit k).MakesFrom frame node)
    (exec : ∀ node ∈ args, Runs habit ev node) (hosts : (habit k).Hosts calling)
    (calls : ∀ ref values, calling.Keeps fun i => (ev i).call ref values) :
    (habit k).Keeps fun i => (ev i).callNamed frame name args := by
  have law := lawful.sturdy k
  refine law.bind lawful.lookup fun callee => ?_
  split
  · exact law.bind (lawful.arguments may makes exec) fun values => hosts.hosted (calls _ values)
  · exact law.fail rfl

theorem callMethod {name : String} (target : Runs habit ev node)
    (makes : ∀ node ∈ args, (habit k).MakesFrom frame node) (exec : ∀ node ∈ args, Runs habit ev node)
    (hosts : (habit k).Hosts calling) (calls : ∀ ref values, calling.Keeps fun i => (ev i).call ref values) :
    (habit k).Keeps fun i => (ev i).callMethod frame node name args := by
  have law := lawful.sturdy k
  refine law.bind (target k frame may) fun receiver => ?_
  split
  · exact law.fail rfl
  · refine law.bind (lawful.arguments may makes exec) fun values => ?_
    exact hosts.hosted (hosts.sturdy.applyMethod _ calls receiver name values)

theorem operate {token : String} {left right : Node} (ofLeft : Runs habit ev left) (ofRight : Runs habit ev right) :
    (habit k).Keeps fun i => (ev i).operate frame token left right := by
  have law := lawful.sturdy k
  refine law.bind (ofLeft k frame may) fun leftValue => law.bind (ofRight k frame may) fun rightValue => ?_
  split
  · exact law.operator _ _ _
  · exact law.fail rfl

theorem object {properties : List (String × Node)}
    (makes : ∀ entry ∈ properties, (habit k).MakesFrom frame entry.2)
    (exec : ∀ entry ∈ properties, Runs habit ev entry.2) :
    (habit k).Keeps fun i => (ev i).object frame properties := by
  have law := lawful.sturdy k
  refine law.bind (law.each fun entry member => ?_) fun entries =>
    law.newObject (Table.nodup_keys_ofList entries)
  exact law.bind (argument (makes entry member) (exec entry member k frame may)) fun _ => law.done _

theorem access {member : Member} {key : ι → Exec Value}
    (reads : ∀ target key, (habit k).Keeps fun _ => readProperty target key) (target : Runs habit ev node)
    (keys : (habit k).Keeps key) : (habit k).Keeps fun i => (ev i).access frame node member (key i) := by
  have law := lawful.sturdy k
  refine law.bind (target k frame may) fun receiver => ?_
  split
  · exact law.fail rfl
  · exact law.bind keys fun keyValue => reads receiver keyValue

/-! ## Choices -/

theorem branch {thenBranch : List Node} {elseBranch : Option (List Node)} (test : Runs habit ev node)
    (ofThen : ∀ part ∈ thenBranch, Runs habit ev part) (ofElse : ∀ part ∈ elseBranch.getD [], Runs habit ev part) :
    (habit k).Keeps fun i => (ev i).branch frame node thenBranch elseBranch := by
  have law := lawful.sturdy k
  refine law.bind (law.condition (test k frame may)) fun holds => ?_
  split
  · exact lawful.runInside (lawful.known may) ofThen
  · exact lawful.runInside (lawful.known may) ofElse
  · exact law.done _

/-- What is done after a choice among cases is known for the bodies of the cases only. -/
theorem matchingCase {cases : List (Node × List Node)} {next : ι → Option (List Node) → Exec Value}
    (tests : ∀ entry ∈ cases, Runs habit ev entry.1)
    (chosen : ∀ entry ∈ cases, (habit k).Keeps fun i => next i (some entry.2))
    (other : (habit k).Keeps fun i => next i none) (value : Value) :
    (habit k).Keeps fun i => (ev i).matchingCase frame value cases >>= next i := by
  induction cases with
  | nil => exact other
  | cons entry rest ih =>
    obtain ⟨test, tests⟩ := List.forall_mem_cons.mp tests
    obtain ⟨hit, later⟩ := List.forall_mem_cons.mp chosen
    simp only [Evaluator.matchingCase, Exec.bind_assoc]
    refine (lawful.sturdy k).bind (test k frame may) fun candidate => ?_
    split
    · exact hit
    · exact ih tests later

theorem select {cases : List (Node × List Node)} {otherwise : Option (List Node)} (control : Runs habit ev node)
    (exec : ∀ entry ∈ cases, Runs habit ev entry.1 ∧ ∀ part ∈ entry.2, Runs habit ev part)
    (default : ∀ part ∈ otherwise.getD [], Runs habit ev part) :
    (habit k).Keeps fun i => (ev i).select frame node cases otherwise := by
  have law := lawful.sturdy k
  have known := lawful.known may
  refine law.bind (control k frame may) fun value => ?_
  refine lawful.matchingCase may (fun entry member => (exec entry member).1)
    (fun entry member => lawful.runInside known (exec entry member).2) ?_ value
  cases otherwise with
  | some body => exact lawful.runInside known default
  | none => exact law.done _

end Here

/-! ## Loops -/

variable (inLoop : ∀ k, (habit k).InLoop (inner k)) (bodyLawful : Lawful inner)
  (exec : ∀ part ∈ body, Runs inner ev part) (effort : Nat)

include inLoop bodyLawful exec

omit lawful in
/-- The body of a loop that is run in the frame of its condition. -/
theorem round (may : (habit k).writable frame) (last : Value) :
    (habit k).Keeps fun i => TreeScript.absorbJumps last ((ev i).run frame body) :=
  (inLoop k).absorbJumps ((bodyLawful.sturdy k).run fun part member =>
    exec part member k frame ((inLoop k).writable may)) last

theorem whileLoop (known : (habit k).knows frame) (test : Runs habit ev node) :
    (habit k).Keeps fun i => (ev i).whileLoop effort frame node body := by
  refine lawful.child known fun m scope may => (lawful.sturdy m).repeatRounds (fun last => ?_) effort _
  refine (lawful.sturdy m).bind ((lawful.sturdy m).condition (test m scope may)) fun holds => ?_
  split
  · exact round inLoop bodyLawful exec may last
  · exact (lawful.sturdy m).done _

theorem doWhile (known : (habit k).knows frame) (test : Runs habit ev node) :
    (habit k).Keeps fun i => (ev i).doWhile effort frame body node := by
  refine lawful.child known fun m scope may => (lawful.sturdy m).repeatRounds (fun last => ?_) effort _
  have law := lawful.sturdy m
  refine law.bind (round inLoop bodyLawful exec may last) fun result => ?_
  cases result with
  | finished value => exact law.done _
  | again value =>
    refine law.bind (law.condition (test m scope may)) fun holds => ?_
    split <;> exact law.done _

theorem forLoop {init condition update : Option Node} (known : (habit k).knows frame)
    (ofInit : ∀ node ∈ init.toList, Runs habit ev node)
    (ofCondition : ∀ node ∈ condition.toList, Runs habit ev node)
    (ofUpdate : ∀ node ∈ update.toList, Runs habit ev node) :
    (habit k).Keeps fun i => (ev i).forLoop effort frame init condition update body := by
  refine lawful.child known fun m scope may => (lawful.sturdy m).bind (lawful.perform may ofInit) fun _ => ?_
  have law := lawful.sturdy m
  have proceeds : (habit m).Keeps fun i => (ev i).proceeds scope condition := by
    cases condition with
    | none => exact law.done true
    | some node => exact law.condition (ofCondition node List.mem_cons_self m scope may)
  refine law.repeatRounds (fun last => law.bind proceeds fun goesOn => ?_) effort _
  split
  · have inside := bodyLawful.known ((inLoop m).writable may)
    refine law.bind ((inLoop m).absorbJumps (bodyLawful.runInside inside exec) last) fun round => ?_
    cases round with
    | finished value => exact law.done _
    | again value => exact law.bind (lawful.perform may ofUpdate) fun _ => law.done _
  · exact law.done _

theorem forEach {item : String} (may : (habit k).writable frame) (array : Runs habit ev node) :
    (habit k).Keeps fun i => (ev i).forEach effort frame item node body := by
  have law := lawful.sturdy k
  refine law.bind (array k frame may) fun value => ?_
  split
  · refine law.bind (law.repeatRounds (fun state => ?_) effort _) fun _ => law.done _
    refine law.bind law.read fun elements => ?_
    cases elements[state.1]? with
    | none => exact law.done _
    | some element =>
      have round : (inner k).Keeps fun i => (do
          let scope ← Exec.child frame "for-each"
          Exec.define scope item element
          (ev i).run scope body) :=
        bodyLawful.child (bodyLawful.known ((inLoop k).writable may)) fun m scope may =>
          (bodyLawful.sturdy m).bind (bodyLawful.define may) fun _ =>
            (bodyLawful.sturdy m).run fun part member => exec part member m scope may
      refine law.bind ((inLoop k).absorbJumps round state.2) fun round => ?_
      cases round <;> exact law.done _
  · exact law.fail rfl

end Lawful

end Habit

end TreeScript
