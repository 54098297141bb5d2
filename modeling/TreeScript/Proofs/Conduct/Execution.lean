import TreeScript.Proofs.Conduct.Constructs
import TreeScript.Proofs.Tree.Sites

/-! # Execution follows every unrestricted conduct

A node follows the conduct of the site where it stands if its parts follow those of theirs, and if the
jump that it makes itself is allowed there. Whatever holds of a store and is kept by the changes that
steps make holds at the end of every execution: of any node, in any frame that may be written, and
however the execution ends. Nodes that open a scope do not even need to write the frame they are
executed in.
-/

namespace TreeScript

/-- The nodes that are executed in a new scope from the start. -/
def Node.opensScope : Node → Bool
  | block _ | whileLoop _ _ | doWhile _ _ | forLoop _ _ _ _ | tryCatch _ _ _ => true
  | _ => false

/-- The kinds of jumps. -/
inductive Jump where
  | giveBack
  | breakLoop
  | continueLoop
  deriving DecidableEq

def Signal.jump : Signal → Jump
  | returned _ => .giveBack
  | broken => .breakLoop
  | continued => .continueLoop

/-- The jump that a node makes itself. -/
def Node.jump? : Node → Option Jump
  | .giveBack _ | .host _ (.returnValue _) _ => some .giveBack
  | .breakLoop | .host _ .breakLoop _ => some .breakLoop
  | .continueLoop | .host _ .continueLoop _ => some .continueLoop
  | _ => none

/-- The nodes that read a property. -/
def Node.isAccess : Node → Bool
  | property _ _ | element _ _ => true
  | _ => false

/-- A node has the habit of its site if its parts have those of theirs. -/
theorem Habit.execNode {ι κ : Type} (ev : ι → Evaluator) (habits : Site → κ → Habit ι) (site : Site) (k : κ)
    {node : Node} {frame : FrameRef} (lawful : ∀ site, Lawful (habits site))
    (inLoop : ∀ k, (habits site k).InLoop (habits site.looping k)) (known : (habits site k).knows frame)
    (may : (habits site k).writable frame ∨ node.opensScope = true)
    (jumps : ∀ signal : Signal, node.jump? = some signal.jump →
      (habits site k).Keeps fun _ => (Exec.jump signal : Exec Value))
    (reads : node.isAccess = true → ∀ target key, (habits site k).Keeps fun _ => readProperty target key)
    (makes : ∀ part ∈ node.parts site, (habits part.1 k).MakesFrom frame part.2)
    (exec : ∀ part ∈ node.parts site, Runs (habits part.1) ev part.2)
    {calling : Habit ι} (hosts : (habits site k).Hosts calling)
    (calls : ∀ ref args, calling.Keeps fun i => (ev i).call ref args) (effort : Nat) :
    (habits site k).Keeps fun i => (ev i).execNode effort node frame := by
  have here (closed : node.opensScope = false) : (habits site k).writable frame := may.resolve_right (by simp [closed])
  have lawfulHere := lawful site
  have law := lawfulHere.sturdy k
  have looped := lawful site.looping
  -- One case for each kind of node: what is known of the parts becomes one hypothesis for each part.
  cases node <;>
    simp only [Node.parts, List.forall_mem_cons, List.forall_mem_map, List.forall_mem_append,
      List.map_append, List.forall_mem_flatMap, List.not_mem_nil, false_implies, implies_true,
      and_true] at exec makes
  case literal value => exact law.done _
  case reference name => exact lawfulHere.lookup
  case declare kind name initial => exact lawfulHere.declare (here rfl) makes exec
  case assign name expression => exact lawfulHere.assign (here rfl) exec
  case giveBack expression =>
    cases expression with
    | none => exact jumps _ rfl
    | some expression =>
      exact law.bind (exec expression List.mem_cons_self k frame (here rfl)) fun value => jumps (.returned value) rfl
  case breakLoop => exact jumps .broken rfl
  case continueLoop => exact jumps .continued rfl
  case raise message =>
    exact law.bind (exec k frame (here rfl)) fun value => law.bind law.spell fun text => law.fail rfl
  case function => exact law.fail rfl
  case arrow => exact law.fail rfl
  case call name args => exact lawfulHere.callNamed (here rfl) makes exec hosts calls
  case binary token left right => exact lawfulHere.operate (here rfl) exec.1 exec.2
  case method target name args => exact lawfulHere.callMethod (here rfl) exec.1 makes.2 exec.2 hosts calls
  case array elements =>
    exact law.bind (law.each fun node member => exec node member k frame (here rfl)) fun values => law.newArray
  case object properties => exact lawfulHere.object (here rfl) makes exec
  case setIndex target index value =>
    refine law.bind (exec.1 k frame (here rfl)) fun targetValue => law.bind (exec.2.1 k frame (here rfl)) fun _ => ?_
    exact law.bind (exec.2.2 k frame (here rfl)) fun newValue => law.writeElement _ _ _
  case property target name => exact lawfulHere.access (here rfl) (reads rfl) exec (law.done _)
  case element target key => exact lawfulHere.access (here rfl) (reads rfl) exec.1 (exec.2 k frame (here rfl))
  case block statements => exact lawfulHere.runInside known exec
  case branch condition thenBranch elseBranch => exact lawfulHere.branch (here rfl) exec.1 exec.2.1 exec.2.2
  case select expression cases otherwise => exact lawfulHere.select (here rfl) exec.1 exec.2.1 exec.2.2
  case whileLoop condition body => exact lawfulHere.whileLoop inLoop looped exec.2 effort known exec.1
  case doWhile body condition => exact lawfulHere.doWhile inLoop looped exec.2 effort known exec.1
  case forLoop init condition update body =>
    obtain ⟨⟨⟨ofInit, ofCondition⟩, ofUpdate⟩, ofBody⟩ := exec
    exact lawfulHere.forLoop inLoop looped ofBody effort known ofInit ofCondition ofUpdate
  case forEach item iterable body => exact lawfulHere.forEach inLoop looped exec.2 effort (here rfl) exec.1
  case tryCatch tryBlock catchVar catchBlock => exact lawfulHere.tryCatch known exec.1 exec.2
  case host name action type =>
    cases action with
    | constant value => exact law.done value
    | lookup bound => exact lawfulHere.lookup
    | define bound value => exact law.bind (lawfulHere.define (here rfl)) fun _ => law.done value
    | crash | scriptError => exact law.fail rfl
    | breakLoop => exact jumps .broken rfl
    | continueLoop => exact jumps .continued rfl
    | returnValue value => exact jumps (.returned value) rfl

/-! ## The habit of following a conduct -/

/-- Working on values has a habit that every step has which follows certain conducts. -/
theorem Habit.Sequential.sturdy {ι κ : Type} {habit : Habit ι} (sequential : habit.Sequential) {conduct : κ → Conduct}
    (sturdy : ∀ k, (conduct k).Sturdy) (operating : ∀ k, (conduct k).Operating)
    (plain : ∀ {α} {step : Exec α}, (∀ k, step.Follows (conduct k)) → habit.Keeps fun _ => step) : habit.Sturdy where
  toSequential := sequential
  read := plain fun _ => Exec.follows_read _
  spell := plain fun k => Exec.follows_spell ((operating k).fault rfl)
  ensureReadable := plain fun k => Exec.follows_ensureReadable ((operating k).fault rfl)
  ofArithmetic := plain fun k => Exec.follows_ofArithmetic fun _ => (operating k).fault rfl
  newArray := plain fun k => Exec.follows_newArray (sturdy k) _
  newObject distinct := plain fun k => Exec.follows_newObject (sturdy k) distinct
  updateArray := plain fun k => Exec.follows_change fun _ => (sturdy k).updateArray
  operator operator left right := plain fun k => operator.follows_apply (sturdy k) (operating k) left right
  writeElement target index value := plain fun k => follows_writeElement (sturdy k) (operating k) target index value

namespace Conduct

/-- `inner` is a conduct for the body of a loop that follows `conduct`. -/
structure InLoop (conduct inner : Conduct) : Prop where
  enter : ∀ {store}, conduct.holds store → inner.holds store
  leave : ∀ {store}, inner.holds store → conduct.holds store
  writable : ∀ {frame}, conduct.writable frame → inner.writable frame
  stops : ∀ {reason}, inner.allows reason → reason ≠ .signal .broken →
    reason ≠ .signal .continued → conduct.allows reason

/-- `inner` is a conduct for the body of a function literal whose calls follow `conduct`. -/
structure InCall (conduct inner : Conduct) : Prop where
  enter : ∀ {store}, conduct.holds store → inner.holds store
  leave : ∀ {store}, inner.holds store → conduct.holds store
  writable : ∀ {frame}, conduct.writable frame → inner.writable frame
  failures : ∀ {cause}, inner.allows (.failure cause) → conduct.allows (.failure cause)
  faults : ∀ {cause}, inner.allows (.fault cause) → conduct.allows (.fault cause)
  strays : ∀ {signal name}, inner.allows (.signal signal) → (∀ value, signal ≠ .returned value) →
    conduct.allows (.failure (.straySignal signal.keyword (.function name)))

end Conduct

variable {conduct inner : Conduct}

theorem follows_absorbJumps (inLoop : conduct.InLoop inner) {body : Exec Value}
    (follows : body.Follows inner) (last : Value) : (absorbJumps last body).Follows conduct := by
  rw [Exec.absorbJumps_eq_settle]
  refine follows.settle inLoop.enter inLoop.leave (fun _ => Exec.follows_done _) fun reason may => ?_
  have passes := inLoop.stops may
  split
  · exact Exec.follows_done _
  · exact Exec.follows_done _
  · next continues breaks => exact Exec.follows_stop (passes breaks continues)

theorem follows_absorbReturn (inCall : conduct.InCall inner) {body : Exec Value} {name : String}
    (follows : body.Follows inner) : (absorbReturn name body).Follows conduct := by
  rw [Exec.absorbReturn_eq_settle]
  refine follows.settle inCall.enter inCall.leave (fun _ => Exec.follows_done _) fun reason may => ?_
  cases reason with
  | failure cause => exact Exec.follows_stop (inCall.failures may)
  | fault cause => exact Exec.follows_stop (inCall.faults may)
  | signal signal =>
    cases signal with
    | returned value => exact Exec.follows_done value
    | broken | continued => exact Exec.follows_fail (inCall.strays may (by simp))

/-- A node makes a function only as the conduct allows. -/
def Conduct.MakesFrom (conduct : Conduct) (frame : FrameRef) (node : Node) : Prop :=
  ∀ make, closureOf? frame node = some make → make.Follows conduct

namespace Conduct

/-- To follow the conduct, as a habit of steps that have one variant. -/
def habit (conduct : Conduct) : Habit Unit where
  Keeps step := (step ()).Follows conduct
  writable := conduct.writable
  makes := conduct.makes

theorem Tolerant.habit (tolerant : conduct.Tolerant) : conduct.habit.Sequential where
  done := Exec.follows_done
  unfinished := Exec.follows_unfinished
  fail ordinary := Exec.follows_fail (tolerant.failure ordinary)
  bind := Exec.Follows.bind

theorem Sturdy.habit (sturdy : conduct.Sturdy) (tolerant : conduct.Tolerant) : conduct.habit.Sturdy :=
  tolerant.habit.sturdy (fun _ : Unit => sturdy) (fun _ => tolerant.operating) fun follows => follows ()

theorem Sturdy.hosts (sturdy : conduct.Sturdy) (tolerant : conduct.Tolerant) :
    conduct.habit.Hosts conduct.habit where
  sturdy := sturdy.habit tolerant
  hosted follows := follows.hosted fun _ => tolerant.failure rfl

theorem Lawful.habit (lawful : conduct.Lawful) (permissive : conduct.Permissive) :
    Habit.Lawful fun _ : Unit => conduct.habit where
  sturdy _ := lawful.toSturdy.habit permissive.tolerant
  known _ := trivial
  child _ rest := Exec.Follows.child lawful (rest ())
  define := Exec.follows_define lawful
  lookup := Exec.follows_lookup (permissive.failure rfl)
  catching follows handles := follows.catching fun cause allowed =>
    (Exec.follows_change fun _ holds => lawful.caught holds allowed).bind fun _ => handles cause
  memoHit := Exec.follows_change fun _ => lawful.memoHit
  remember := Exec.follows_change fun _ => lawful.remember
  callee {_ ref _} missing found := by
    refine ⟨fun host store holds => ?_⟩
    rw [Exec.meets_bind]
    simp only [Exec.read, Outcome.Meets]
    cases made : store.functions[ref]? with
    | none => exact missing.meets host store holds
    | some function => exact (found () function (lawful.made holds made)).meets host store holds
  scope _ _ := trivial

theorem InLoop.habit (inLoop : conduct.InLoop inner) : conduct.habit.InLoop inner.habit where
  writable := inLoop.writable
  absorbJumps := follows_absorbJumps inLoop

theorem InCall.habit (inCall : conduct.InCall inner) : conduct.habit.InCall inner.habit where
  writable := inCall.writable
  absorbReturn := follows_absorbReturn inCall

end Conduct

/-- The functions that a literal can become in a frame; the host decides whether a pure one remembers. -/
inductive Node.MayMake (frame : FrameRef) : Node → Callable → Prop
  | closure {name params body paramTypes returnType isPure} :
      MayMake frame (.function name params body paramTypes returnType isPure)
        (.closure ⟨functionName name, params, body, frame⟩)
  | memoized {name params body paramTypes returnType isPure} :
      MayMake frame (.function name params body paramTypes returnType isPure)
        (.memoized ⟨functionName name, params, body, frame⟩ [])
  | arrow {params body} : MayMake frame (.arrow params body) (.arrow params body frame)

theorem follows_closureOf? {frame : FrameRef} {node : Node} {make : Exec Value}
    (closure : closureOf? frame node = some make)
    (each : ∀ function, node.MayMake frame function → (Exec.newFunction function).Follows conduct) :
    make.Follows conduct := by
  unfold closureOf? at closure
  split at closure
  · cases closure
    refine Exec.follows_host.bind fun host => each _ ?_
    split
    · exact .memoized
    · exact .closure
  · cases closure
    exact each _ .arrow
  · cases closure

theorem Conduct.Lawful.makesFrom (lawful : conduct.Lawful) {frame : FrameRef} {node : Node}
    (each : ∀ function, node.MayMake frame function → conduct.makes function) : conduct.MakesFrom frame node :=
  fun _ closure => follows_closureOf? closure fun function made => Exec.follows_newFunction lawful (each function made)

/-! ## Conducts by site -/

/-- A conduct for each site, and the nodes that may stand there: the functions that such nodes make have
bodies that may stand in functions, and the jumps that they make are allowed where they stand. -/
structure Conduct.Regime (conduct : Site → Conduct) (admits : Site → Node → Prop) : Prop where
  lawful : ∀ site, (conduct site).Lawful
  permissive : ∀ site, (conduct site).Permissive
  writable : ∀ {site other frame}, (conduct site).writable frame → (conduct other).writable frame
  inLoop : ∀ site, (conduct site).InLoop (conduct site.looping)
  inCall : ∀ site, (conduct site).InCall (conduct .ofFunction)
  /-- Arrows are executed as they stand, so that what leaves the body of one leaves its call. -/
  inArrow : ∀ site {step : Exec Value}, step.Follows (conduct .ofArrow) → step.Follows (conduct site)
  parts : ∀ {site node}, admits site node → ∀ part ∈ node.parts site, admits part.1 part.2
  jumps : ∀ {site node} {signal : Signal}, admits site node → node.jump? = some signal.jump →
    (conduct site).allows (.signal signal)
  makes : ∀ {site node frame function}, admits site node → node.MayMake frame function →
    (conduct site).makes function
  literal : ∀ {site function}, (conduct site).makes (.closure function) →
    ∀ node ∈ function.body, admits .ofFunction node
  memoized : ∀ {site function cache}, (conduct site).makes (.memoized function cache) →
    (conduct site).makes (.closure function)
  arrow : ∀ {site params body scope}, (conduct site).makes (.arrow params body scope) → admits .ofArrow body

/-- The evaluator's executions follow the conducts of the sites of nodes, and its calls those of all sites. -/
structure Evaluator.FollowsSites (conduct : Site → Conduct) (admits : Site → Node → Prop) (ev : Evaluator) : Prop where
  exec : ∀ site {node frame}, admits site node → (conduct site).writable frame ∨ node.opensScope = true →
    (ev.exec node frame).Follows (conduct site)
  call : ∀ site ref args, (ev.call ref args).Follows (conduct site)

namespace Conduct.Regime

variable {conduct : Site → Conduct} {admits : Site → Node → Prop} (regime : Regime conduct admits) {ev : Evaluator}

include regime

theorem habit (site : Site) : Habit.Lawful fun _ : Unit => (conduct site).habit :=
  (regime.lawful site).habit (regime.permissive site)

theorem execNode (follows : ev.FollowsSites conduct admits) (effort : Nat) (site : Site) {node : Node} {frame : FrameRef}
    (admitted : admits site node) (may : (conduct site).writable frame ∨ node.opensScope = true) :
    (ev.execNode effort node frame).Follows (conduct site) :=
  Habit.execNode (fun _ => ev) (fun site _ => (conduct site).habit) site () regime.habit
    (fun _ => (regime.inLoop site).habit) trivial may
    (fun _ made => Exec.follows_jump (regime.jumps admitted made))
    (fun _ => follows_readProperty (regime.permissive site).numeric)
    (fun part member => (regime.lawful part.1).makesFrom fun _ => regime.makes (regime.parts admitted part member))
    (fun part member _ _ writable => follows.exec part.1 (regime.parts admitted part member) (.inl writable))
    ((regime.lawful site).toSturdy.hosts (regime.permissive site).tolerant) (follows.call site) effort

theorem callFunction (follows : ev.FollowsSites conduct admits) (site : Site) (ref : FunctionRef) (args : List Value) :
    (ev.callFunction ref args).Follows (conduct site) :=
  (regime.habit site).callFunction (fun _ => ev) (fun _ => (regime.inCall site).habit)
    (fun _ => (regime.permissive .ofFunction).tolerant.habit)
    (fun _ _ made node member _ _ writable => follows.exec .ofFunction (regime.literal made node member) (.inl writable))
    (fun _ _ _ => regime.memoized)
    (fun _ _ _ _ made _ _ writable =>
      regime.inArrow site (follows.exec .ofArrow (regime.arrow made) (.inl (regime.writable writable))))
    (fun _ => Builtin.follows_call (regime.lawful site).toSturdy (regime.permissive site).tolerant) () ref args

/-- Executions and calls follow the conducts of their sites, whatever effort they are allowed. -/
theorem evaluator (effort : Nat) : (evaluator effort).FollowsSites conduct admits := by
  induction effort with
  | zero => exact ⟨fun _ _ _ _ _ => Exec.follows_unfinished, fun _ _ _ => Exec.follows_unfinished⟩
  | succ effort ih => exact ⟨regime.execNode ih effort, regime.callFunction ih⟩

end Conduct.Regime

/-- A lawful conduct under which every function may be made and every reason to stop is allowed. -/
structure Conduct.Unrestricted (conduct : Conduct) : Prop extends conduct.Lawful where
  anyFunction : ∀ function, conduct.makes function
  anyReason : ∀ reason, conduct.allows reason

theorem Conduct.Unrestricted.permissive (free : conduct.Unrestricted) : conduct.Permissive where
  failure _ := free.anyReason _
  fault := free.anyReason _

/-- One conduct for all sites, where every node may stand. -/
theorem Conduct.Unrestricted.regime (free : conduct.Unrestricted) :
    Regime (fun _ => conduct) fun _ _ => True where
  lawful _ := free.toLawful
  permissive _ := free.permissive
  writable := id
  inLoop _ := ⟨id, id, id, fun _ _ _ => free.anyReason _⟩
  inCall _ := ⟨id, id, id, id, id, fun _ _ => free.anyReason _⟩
  inArrow _ := id
  parts _ _ _ := trivial
  jumps _ _ := free.anyReason _
  makes _ _ := free.anyFunction _
  literal _ _ _ := trivial
  memoized _ := free.anyFunction _
  arrow _ := trivial

/-- The evaluator's executions and calls follow the conduct. -/
structure Evaluator.Follows (conduct : Conduct) (ev : Evaluator) : Prop where
  exec : ∀ node frame, conduct.writable frame ∨ node.opensScope = true →
    (ev.exec node frame).Follows conduct
  call : ∀ ref args, (ev.call ref args).Follows conduct

theorem Evaluator.Follows.sites {ev : Evaluator} (follows : ev.Follows conduct) :
    ev.FollowsSites (fun _ => conduct) fun _ _ => True :=
  ⟨fun _ _ _ _ => follows.exec _ _, fun _ => follows.call⟩

/-- Executions and calls follow every unrestricted conduct, whatever effort they are allowed. -/
theorem evaluator_follows (free : conduct.Unrestricted) (effort : Nat) : (evaluator effort).Follows conduct := by
  have sites := free.regime.evaluator effort
  exact ⟨fun _ _ => sites.exec .ofFunction trivial, sites.call .ofFunction⟩

theorem Node.exec_follows (free : conduct.Unrestricted) (node : Node) (effort : Nat)
    {frame : FrameRef} (may : conduct.writable frame ∨ node.opensScope = true) :
    (node.exec effort frame).Follows conduct :=
  (evaluator_follows free effort).exec node frame may

end TreeScript
