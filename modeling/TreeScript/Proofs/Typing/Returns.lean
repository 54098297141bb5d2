import TreeScript.Proofs.Typing.Soundness
import TreeScript.Proofs.Typing.ValueTypes

/-! # Types of returned values

Inference takes the type of a function body from its last statement alone, and execution its result
from whichever `return` comes first. The two agree for bodies of the core language with `return` where
every value that is returned has the declared type, in the scope of its place. Such bodies are executed
soundly, like the core language itself; a body that comes to its end without a `return` still gives
undefined.
-/

namespace TreeScript

open Inference

variable {host : Host} {store : Store} {scope after : TypeScope} {frame : FrameRef}
  {type result : Ty} {mayDeclare : Bool} {node : Node} {statements : List Node}

/-! ## Bodies that return values of one type -/

/-- Whether a node belongs to the core language, where `mayDeclare` tells whether a declaration may stand in its
place. -/
def Node.isCoreText (mayDeclare : Bool) (node : Node) : Bool :=
  (mayDeclare || !node.isDeclaration) && node.everywhere isCore .ofFunction

theorem Node.IsCore.of_isCoreText (core : node.isCoreText mayDeclare = true) : node.IsCore mayDeclare :=
  have ⟨place, text⟩ := Bool.and_eq_true_iff.mp core
  ⟨place, _, text⟩

mutual

/-- Whether a node belongs to the core language with `return`, and all values that it returns have a
type in the scopes of their places, which no rule for single nodes sees. Values are returned from statements only. -/
def Node.returnsOnly (result : Ty) (mayDeclare : Bool) (scope : TypeScope) : Node → Bool
  | .giveBack (some expression) => expression.isCoreText false && match (expression.infer scope).1 with
    | .ok type => result.same type
    | .error _ => false
  | .block statements => allReturnOnly result true (⟨"block", []⟩ :: scope) statements
  | .branch condition thenBranch elseBranch =>
    condition.isCoreText false && allReturnOnly result true (⟨"then", []⟩ :: scope) thenBranch &&
      optionalReturnsOnly result (⟨"else", []⟩ :: scope) elseBranch
  | .select expression cases otherwise =>
    expression.isCoreText false && casesReturnOnly result scope cases &&
      optionalReturnsOnly result (⟨"default", []⟩ :: scope) otherwise
  | .whileLoop condition body =>
    condition.isCoreText false && allReturnOnly result false (⟨"while", []⟩ :: scope) body
  | .doWhile body condition =>
    allReturnOnly result false (⟨"do-while", []⟩ :: scope) body && condition.isCoreText false
  | .forLoop init condition update body =>
    init.all (·.isCoreText true) && condition.all (·.isCoreText false) && update.all (·.isCoreText false) &&
      allReturnOnly result true (⟨"for body", []⟩ :: (inferMaybe init (⟨"for", []⟩ :: scope)).2) body
  | .forEach item iterable body => iterable.isCoreText false && match (iterable.infer scope).1 with
    | .ok (.array element) => allReturnOnly result true (⟨"for-each", [(item, element)]⟩ :: scope) body
    | _ => false
  | .tryCatch tryBlock catchVar catchBlock =>
    allReturnOnly result true (⟨"try", []⟩ :: scope) tryBlock &&
      allReturnOnly result true (⟨"catch", [(catchVar, Failure.entriesType)]⟩ :: scope) catchBlock
  | node => node.isCoreText mayDeclare

/-- Each of the statements stands in the scope that those before it leave. -/
def allReturnOnly (result : Ty) (mayDeclare : Bool) (scope : TypeScope) : List Node → Bool
  | [] => true
  | node :: rest =>
    node.returnsOnly result mayDeclare scope && allReturnOnly result mayDeclare (node.infer scope).2 rest

def casesReturnOnly (result : Ty) (scope : TypeScope) : List (Node × List Node) → Bool
  | [] => true
  | (candidate, body) :: rest =>
    candidate.isCoreText false && allReturnOnly result true (⟨"case", []⟩ :: scope) body &&
      casesReturnOnly result scope rest

def optionalReturnsOnly (result : Ty) (scope : TypeScope) : Option (List Node) → Bool
  | none => true
  | some statements => allReturnOnly result true scope statements

end

theorem of_casesReturnOnly {cases : List (Node × List Node)}
    (only : casesReturnOnly result scope cases = true) :
    ∀ entry ∈ cases, entry.1.isCoreText false = true ∧
      allReturnOnly result true (⟨"case", []⟩ :: scope) entry.2 = true := by
  induction cases with
  | nil => exact fun _ member => absurd member List.not_mem_nil
  | cons entry rest ih =>
    simp only [casesReturnOnly, Bool.and_eq_true] at only
    exact List.forall_mem_cons.mpr ⟨only.1, ih only.2⟩

/-- Stop for any reason, but return only values of a type. -/
def Stop.Returns (result : Ty) (reason : Stop) (store : Store) : Prop :=
  ∀ value, reason = .signal (.returned value) → store.HasType result value

theorem Stop.Returns.of_isExpected {reason : Stop} (expected : reason.isExpected = true) :
    reason.Returns result store := by
  rintro value rfl
  cases expected

/-- The evaluator executes bodies soundly. -/
def Evaluator.Returning (ev : Evaluator) (result : Ty) : Prop :=
  ∀ ⦃node : Node⦄ ⦃mayDeclare : Bool⦄ ⦃scope : TypeScope⦄,
    node.returnsOnly result mayDeclare scope = true →
    ev.SoundAt (Stop.Returns result) mayDeclare scope node

namespace Evaluator

variable {ev : Evaluator}

theorem Sound.at_returns (sound : ev.Sound) (core : node.isCoreText mayDeclare = true) (scope : TypeScope) :
    ev.SoundAt (Stop.Returns result) mayDeclare scope node :=
  (sound.soundAt (.of_isCoreText core) scope).allow fun _ _ => .of_isExpected

namespace Returning

/-- A `return` stops with a value of the type. -/
theorem soundBy_giveBack (sound : ev.Sound) {expression : Node} (core : expression.isCoreText false = true)
    (typed : (match (expression.infer scope).1 with
      | .ok type => result.same type
      | .error _ => false) = true) :
    (Node.giveBack (some expression)).SoundBy (Stop.Returns result) false scope fun frame =>
      ev.exec expression frame >>= fun value => Exec.jump (.returned value) := by
  refine .of_staying fun {type after} inferred => ?_
  have ofExpression : expression.infer scope = (.ok type, after) := inferred
  rw [ofExpression] at typed
  obtain ⟨rfl, runs⟩ := (sound.at_returns core scope).staying ofExpression
  refine ⟨rfl, fun host store fits => ?_⟩
  refine Exec.leading_bind (runs host store fits) fun value later _ fits ofValue => ?_
  refine Exec.staying_stop fits fun _ returned => ?_
  cases returned
  exact ofValue.of_same typed

variable (returning : ev.Returning result)

include returning

theorem soundAll (only : allReturnOnly result mayDeclare scope statements = true) :
    ev.SoundAll (Stop.Returns result) mayDeclare scope statements := by
  induction statements generalizing scope with
  | nil => trivial
  | cons node rest ih =>
    rw [allReturnOnly, Bool.and_eq_true] at only
    refine ⟨returning only.1, fun type after inferred => ih ?_⟩
    rw [inferred] at only
    exact only.2

theorem soundOptional {body : Option (List Node)} (only : optionalReturnsOnly result scope body = true) :
    ∀ statements ∈ body, ev.SoundAll (Stop.Returns result) true scope statements := by
  rintro statements rfl
  exact returning.soundAll only

theorem soundCases (sound : ev.Sound) {cases : List (Node × List Node)}
    (only : casesReturnOnly result scope cases = true) :
    ∀ entry ∈ cases, ev.SoundAt (Stop.Returns result) false scope entry.1 ∧
      ev.SoundAll (Stop.Returns result) true (⟨"case", []⟩ :: scope) entry.2 := by
  intro entry member
  obtain ⟨core, onlyBody⟩ := of_casesReturnOnly only entry member
  exact ⟨sound.at_returns core scope, returning.soundAll onlyBody⟩

/-- One level of execution is sound for bodies if the levels below it are. -/
theorem soundBy_execNode (sound : ev.Sound) (effort : Nat)
    (only : node.returnsOnly result mayDeclare scope = true) :
    node.SoundBy (Stop.Returns result) mayDeclare scope (ev.execNode effort node) := by
  cases node with
  | giveBack expression =>
    cases expression with
    | none => cases (Node.IsCore.of_isCoreText only).here .ofFunction
    | some expression =>
      rw [Node.returnsOnly, Bool.and_eq_true] at only
      exact (soundBy_giveBack sound only.1 only.2).anywhere mayDeclare
  | block statements => exact (soundBy_block (returning.soundAll only)).anywhere mayDeclare
  | branch condition thenBranch elseBranch =>
    simp only [Node.returnsOnly, Bool.and_eq_true] at only
    exact (soundBy_branch (sound.at_returns only.1.1 scope) (returning.soundAll only.1.2)
      (returning.soundOptional only.2)).anywhere mayDeclare
  | select expression cases otherwise =>
    simp only [Node.returnsOnly, Bool.and_eq_true] at only
    exact (soundBy_select (sound.at_returns only.1.1 scope) (returning.soundCases sound only.1.2)
      (returning.soundOptional only.2)).anywhere mayDeclare
  | whileLoop condition body =>
    simp only [Node.returnsOnly, Bool.and_eq_true] at only
    exact (soundBy_whileLoop effort (sound.at_returns only.1 _) (returning.soundAll only.2)).anywhere
      mayDeclare
  | doWhile body condition =>
    simp only [Node.returnsOnly, Bool.and_eq_true] at only
    exact (soundBy_doWhile effort (returning.soundAll only.1) (sound.at_returns only.2 _)).anywhere
      mayDeclare
  | forLoop init condition update body =>
    simp only [Node.returnsOnly, Bool.and_eq_true] at only
    obtain ⟨⟨⟨coreInit, coreCondition⟩, coreUpdate⟩, onlyBody⟩ := only
    refine (soundBy_forLoop effort ?_ fun given first inferred => ⟨?_, ?_, ?_⟩).anywhere mayDeclare
    · rintro node rfl
      exact sound.at_returns coreInit _
    · rintro node rfl
      exact sound.at_returns coreCondition _
    · rintro node rfl
      exact sound.at_returns coreUpdate _
    · rw [inferred] at onlyBody
      exact returning.soundAll onlyBody
  | forEach item iterable body =>
    simp only [Node.returnsOnly, Bool.and_eq_true] at only
    refine (soundBy_forEach effort (sound.at_returns only.1 scope) fun element inferred => ?_).anywhere
      mayDeclare
    rw [inferred] at only
    exact returning.soundAll only.2
  | tryCatch tryBlock catchVar catchBlock =>
    simp only [Node.returnsOnly, Bool.and_eq_true] at only
    exact (soundBy_tryCatch (returning.soundAll only.1) (returning.soundAll only.2)).anywhere mayDeclare
  | _ => exact (sound.soundBy_execNode effort (.of_isCoreText only) scope).allow fun _ _ => .of_isExpected

end Returning

end Evaluator

/-- Of the nodes of a body only a declaration changes the scope that it stands in. -/
theorem Node.infer_tail_eq_of_returnsOnly (only : node.returnsOnly result mayDeclare scope = true)
    (inferred : node.infer scope = (.ok type, after)) :
    scope.tail = after.tail ∧ (mayDeclare = false → scope = after) := by
  have unchanged (same : scope = after) : scope.tail = after.tail ∧ (mayDeclare = false → scope = after) :=
    ⟨congrArg _ same, fun _ => same⟩
  cases node with
  | giveBack expression =>
    cases expression with
    | none => cases (Node.IsCore.of_isCoreText only).here .ofFunction
    | some expression =>
      rw [returnsOnly, Bool.and_eq_true] at only
      exact unchanged (infer_scope_eq (.of_isCoreText only.1) inferred)
  | block statements => exact unchanged (inside_eq_ok.mp inferred).1
  | branch condition thenBranch elseBranch =>
    simp only [returnsOnly, Bool.and_eq_true] at only
    obtain ⟨_, _, ofCondition, _, _, ofElse, _⟩ := of_infer_branch inferred
    exact unchanged ((infer_scope_eq (.of_isCoreText only.1.1) ofCondition).trans (of_inferOptional ofElse).1)
  | select expression cases otherwise =>
    simp only [returnsOnly, Bool.and_eq_true] at only
    obtain ⟨_, _, _, ofExpression, ofCases, ofOtherwise, _⟩ := of_infer_select inferred
    obtain rfl := infer_scope_eq (.of_isCoreText only.1.1) ofExpression
    obtain ⟨rfl, _⟩ := of_inferCases (fun entry member _ _ =>
      infer_scope_eq (.of_isCoreText (of_casesReturnOnly only.1.2 entry member).1)) ofCases
    exact unchanged (of_inferOptional ofOtherwise).1
  | whileLoop condition body => exact unchanged (of_infer_while inferred).1
  | doWhile body condition => exact unchanged (of_infer_doWhile inferred).1
  | forLoop init condition update body => exact unchanged (of_infer_for inferred).1
  | forEach item iterable body =>
    rw [returnsOnly, Bool.and_eq_true] at only
    obtain ⟨_, _, ofIterable, _⟩ := of_infer_forEach inferred
    exact unchanged (infer_scope_eq (.of_isCoreText only.1) ofIterable)
  | tryCatch tryBlock catchVar catchBlock => exact unchanged (of_infer_tryCatch inferred).1
  | _ => exact infer_tail_eq (.of_isCoreText only) inferred

theorem evaluator_returning (result : Ty) (effort : Nat) : (evaluator effort).Returning result := by
  induction effort with
  | zero =>
    intro node mayDeclare scope only
    exact ⟨fun inferred => ⟨Node.infer_tail_eq_of_returnsOnly only inferred, fun _ store _ => .refl store⟩⟩
  | succ effort ih => exact fun _ _ _ only => ih.soundBy_execNode (evaluator_sound effort) effort only

/-! ## Bodies that do not come to their end -/

mutual

/-- Whether execution never gets past a node: what it ends with is a `return`, unless another jump or a
failure comes first. -/
def Node.isTerminal : Node → Bool
  | .giveBack _ => true
  | .block statements => anyTerminal statements
  | .branch _ thenBranch (some elseBranch) => anyTerminal thenBranch && anyTerminal elseBranch
  | .tryCatch tryBlock _ catchBlock => anyTerminal tryBlock && anyTerminal catchBlock
  | _ => false

def anyTerminal : List Node → Bool
  | [] => false
  | node :: rest => node.isTerminal || anyTerminal rest

end

/-- The end of a step that gives no result. -/
def Ending.withoutResult {α : Type} : Ending α := ⟨fun _ _ => False, fun _ _ => True, fun _ => True⟩

theorem Exec.withoutResult_bind {α β : Type} {step : Exec α} {next : α → Exec β}
    (rest : ∀ result later, (next result host later).Meets .withoutResult) :
    ((step >>= next) host store).Meets .withoutResult := by
  rw [meets_bind]
  cases step host store with
  | done result later => exact rest result later
  | stopped | unfinished => trivial

/-- The evaluator does not get past terminal nodes. -/
def Evaluator.StopsAtTerminals (ev : Evaluator) : Prop :=
  ∀ ⦃node : Node⦄, node.isTerminal = true → ∀ (frame : FrameRef) (host : Host) (store : Store),
    (ev.exec node frame host store).Meets .withoutResult

namespace Evaluator.StopsAtTerminals

variable {ev : Evaluator}

theorem run (stops : ev.StopsAtTerminals) (terminal : anyTerminal statements = true) (frame : FrameRef) :
    (ev.run frame statements host store).Meets .withoutResult := by
  unfold Evaluator.run
  generalize Value.undefined = last
  induction statements generalizing last store with
  | nil => cases terminal
  | cons node rest ih =>
    rw [anyTerminal, Bool.or_eq_true] at terminal
    rcases terminal with first | others
    · unfold runFrom
      rw [Exec.meets_bind]
      exact (stops first frame host store).mono (fun _ _ none => none.elim) (fun _ _ _ => trivial)
        (fun _ _ => trivial)
    · exact Exec.withoutResult_bind fun value _ => ih others value

theorem runInside (stops : ev.StopsAtTerminals) (terminal : anyTerminal statements = true)
    (frame : FrameRef) (label : String) :
    (ev.runInside frame label statements host store).Meets .withoutResult :=
  Exec.withoutResult_bind fun inner _ => stops.run terminal inner

theorem execNode (stops : ev.StopsAtTerminals) (terminal : node.isTerminal = true) (effort : Nat)
    (frame : FrameRef) : (ev.execNode effort node frame host store).Meets .withoutResult := by
  cases node with
  | giveBack expression =>
    cases expression with
    | none => trivial
    | some expression => exact Exec.withoutResult_bind fun _ _ => trivial
  | block statements => exact stops.runInside terminal frame "block"
  | branch condition thenBranch elseBranch =>
    cases elseBranch with
    | none => cases terminal
    | some elseBranch =>
      rw [Node.isTerminal, Bool.and_eq_true] at terminal
      refine Exec.withoutResult_bind fun holds later => ?_
      cases holds with
      | true => exact stops.runInside terminal.1 frame "if"
      | false => exact stops.runInside terminal.2 frame "if"
  | tryCatch tryBlock catchVar catchBlock =>
    rw [Node.isTerminal, Bool.and_eq_true] at terminal
    change (Exec.catching _ _ host store).Meets _
    unfold Exec.catching
    split
    · refine Exec.withoutResult_bind fun _ _ => Exec.withoutResult_bind fun inner _ => ?_
      exact Exec.withoutResult_bind fun _ _ => Exec.withoutResult_bind fun _ _ => stops.run terminal.2 inner
    · exact stops.runInside terminal.1 frame "try"
  | _ => cases terminal

end Evaluator.StopsAtTerminals

theorem evaluator_stopsAtTerminals (effort : Nat) : (evaluator effort).StopsAtTerminals := by
  induction effort with
  | zero => exact fun _ _ _ _ _ => trivial
  | succ effort ih => exact fun _ terminal frame _ _ => ih.execNode terminal effort frame

/-! ## Calls -/

namespace Store

variable {around : List FrameRef} {function : Closure} {args : List Value}

theorem lookup?_enterClosure_of_not_mem (holds : store.Holds function.scope) {name : String}
    (absent : name ∉ function.params) :
    (store.enterClosure function args).lookup? store.frames.size name =
      store.lookup? function.scope name := by
  rw [enterClosure_eq, lookup?_push rfl holds, Table.get?_ofList_zip_of_not_mem absent, Option.none_or]

namespace Fits

/-- The frame of a call fits the types of the parameters, if the arguments have them. -/
theorem enterClosure (fits : store.Fits scope (function.scope :: around)) {types : List Ty}
    (typed : List.Forall₂ store.HasType types args) (label : String) :
    (store.enterClosure function args).Fits
      (⟨label, Table.ofList (function.params.zip types)⟩ :: scope)
      (store.frames.size :: function.scope :: around) := by
  have pushed := congrArg Store.frames (store.enterClosure_eq function args)
  have framesGrown : store.IsGrownTo (store.enterClosure function args) := .of_push pushed
  have grown : store.Extends (store.enterClosure function args) := by
    rw [enterClosure_eq]
    exact ⟨fun _ _ found => found, fun _ _ found => found⟩
  have arguments := (Table.Paired.zip function.params typed).ofList
  refine .cons ((visible_push pushed).trans (by rw [fits.visible])) ?_ (fun name type found => ?_) ?_
  · exact fun member => Nat.lt_irrefl _ (fits.lt_size _ member)
  · have related := arguments.get? name
    rw [lookup?_push pushed fits.holds]
    simp only [TypeScope.lookup?, List.findSome?_cons] at found
    generalize (Table.ofList (function.params.zip types)).get? name = declared at related found
    generalize (Table.ofList (function.params.zip args)).get? name = bound at related
    cases related with
    | some ofValue =>
      cases found
      exact ⟨_, rfl, ofValue.extend grown⟩
    | none =>
      obtain ⟨value, bound, ofValue⟩ := fits.lookup found
      exact ⟨value, bound, ofValue.extend grown⟩
  · refine fits.of_frames grown (fun ref member => framesGrown.visible (fits.lt_size ref member)) ?_
    exact fun ref member name => by rw [binding?, binding?, framesGrown ref (fits.lt_size ref member)]

/-- The frame of a call fits the scope in which the body is inferred, if a function is found under the
own name of the function. -/
theorem enterBody (fits : store.Fits scope (function.scope :: around)) {types : List Ty}
    (typed : List.Forall₂ store.HasType types args) {name : Option String}
    (named : ∀ own, name = some own → own.isEmpty = false →
      own ∉ function.params ∧ ∃ ref, store.lookup? function.scope own = some (.function ref))
    (label : String) :
    (store.enterClosure function args).Fits
      (⟨label, bodyBindings name function.params (some types) (some result)⟩ :: scope)
      (store.frames.size :: function.scope :: around) := by
  have entered := fits.enterClosure typed label
  unfold bodyBindings
  cases name with
  | none => exact entered
  | some own =>
    dsimp only [parameterTypes, Option.getD_some]
    split
    · exact entered
    · next filled =>
      obtain ⟨absent, ref, bound⟩ := named own rfl (by simpa using filled)
      exact entered.suppose ((lookup?_enterClosure_of_not_mem fits.holds absent).trans bound) (.function ref)

end Fits

end Store

namespace Store.HasType

/-- Numbers, texts and truth values are told by their type. -/
theorem type?_eq {tag : Primitive} {value : Value} (typed : store.HasType (.prim tag) value)
    (scalar : tag ∈ [.number, .string, .boolean]) : store.type? value = some (.prim tag) := by
  simp only [List.mem_cons, List.not_mem_nil, or_false] at scalar
  rcases scalar with rfl | rfl | rfl <;> cases typed <;>
    simp [Store.type?, Store.picture?, Store.pictureWithin, Picture.type, Ty.number, Ty.string, Ty.boolean]

end Store.HasType

/-- A function that calls a closure. What it remembers, if it does, are values of a type. -/
inductive Callable.Calls (closure : Closure) (result : Ty) (store : Store) : Callable → Prop
  | plain : Calls closure result store (.closure closure)
  | memoized {cache : Table Value}
      (typed : ∀ key value, cache.get? key = some value → store.HasType result value) :
      Calls closure result store (.memoized closure cache)

/-- The end of a call that gives a value of a type, or undefined where it may. -/
def Ending.answering (result : Ty) (mayEnd : Prop) : Ending Value where
  done value later := later.HasType result value ∨ value = .undefined ∧ mayEnd
  stopped _ _ := True
  unfinished _ := True

/-- The scope in which inference looks at the body of a function literal with declared types. -/
def bodyScope (scope : TypeScope) (name : Option String) (params : List String) (types : List Ty) (result : Ty) :
    TypeScope :=
  ⟨"function " ++ functionName name, bodyBindings name params (some types) (some result)⟩ :: scope

section Calls

variable {around : List FrameRef} {function : Closure} {args : List Value} {types : List Ty}
  {name : Option String}

theorem callClosure_answers (fits : store.Fits scope (function.scope :: around))
    (typed : List.Forall₂ store.HasType types args)
    (named : ∀ own, name = some own → own.isEmpty = false →
      own ∉ function.params ∧ ∃ ref, store.lookup? function.scope own = some (.function ref))
    (accepted : Accepts (bodyScope scope name function.params types result) function.body)
    (only : allReturnOnly result true (bodyScope scope name function.params types result) function.body = true)
    (effort : Nat) :
    ((evaluator effort).callClosure function args host store).Meets
      (.answering result (anyTerminal function.body = false)) := by
  by_cases enough : args.length = function.params.length
  · rw [Evaluator.callClosure_eq _ _ _ enough]
    obtain ⟨lastType, last, inferred⟩ := accepted
    have ends : ((evaluator effort).run store.frames.size function.body host
        (store.enterClosure function args)).Meets _ :=
      ((evaluator_returning result effort).soundAll only).staying_run_outside inferred
        (fits.enterBody typed named _)
    unfold absorbReturn
    cases outcome : (evaluator effort).run store.frames.size function.body host
        (store.enterClosure function args) with
    | done value later =>
      refine .inr ⟨rfl, Bool.eq_false_iff.mpr fun terminal => ?_⟩
      have none : ((evaluator effort).run store.frames.size function.body host
          (store.enterClosure function args)).Meets .withoutResult :=
        (evaluator_stopsAtTerminals effort).run terminal _
      rw [outcome] at none
      exact none
    | unfinished later => trivial
    | stopped reason later =>
      rw [outcome] at ends
      cases reason with
      | failure | fault => trivial
      | signal signal =>
        cases signal with
        | returned value => exact .inl (ends.1 value rfl)
        | broken | continued => trivial
  · unfold Evaluator.callClosure
    rw [if_neg enough]
    trivial

/-- Memoization passes on what the closure answers. -/
theorem callFunction_answers {ev : Evaluator} {mayEnd : Prop} {callable : Callable} {ref : FunctionRef}
    (found : store.functions[ref]? = some callable) (calls : callable.Calls function result store)
    (answers : (ev.callClosure function args host store).Meets (.answering result mayEnd)) :
    (ev.callFunction ref args host store).Meets (.answering result mayEnd) := by
  rw [Evaluator.callFunction_eq found]
  cases calls with
  | plain => exact answers
  | @memoized cache remembered =>
    dsimp only
    rcases Evaluator.keyOf_cases args host store with ⟨key, -, keyed⟩ | ⟨-, tooLong⟩ | ⟨-, unkeyed⟩
    · cases entry : cache.get? key with
      | some value =>
        rw [Evaluator.callMemoized_of_hit keyed entry]
        exact .inl ((remembered key value entry).extend (.record store _))
      | none =>
        rw [Evaluator.callMemoized_of_miss keyed entry, Exec.meets_bind]
        refine answers.mono (fun value later ends => ?_) (fun _ _ _ => trivial) (fun _ _ => trivial)
        exact ends.imp_left fun ofValue => ofValue.extend ⟨fun _ _ found => found, fun _ _ found => found⟩
    · rw [Evaluator.callMemoized_of_stopped tooLong]
      trivial
    · rw [Evaluator.callMemoized_of_unkeyed unkeyed]
      trivial

end Calls

/-- A function literal that inference accepts gives values of the type that it declares, if its body belongs
to the core language with `return` and every value that it returns has that type in the scope of its place.
Where the body may come to its end, a call may also give undefined. The function is called where the built-in
functions are bound, and a function under its own name, if inference knows it by one. -/
theorem callWithin_returns_declared_type {name : Option String} {params : List String} {body : List Node}
    {tags : List Primitive} {result : Primitive} {isPure : Bool} {type : Ty} {after : TypeScope}
    (scalar : result ∈ [.number, .string, .boolean])
    (inferred : (Node.function name params body (some (tags.map .prim)) (some (.prim result)) isPure).infer
      .initial = (.ok type, after))
    (only : allReturnOnly (.prim result) true
      (bodyScope .initial name params (tags.map .prim) (.prim result)) body = true)
    {store : Store} (fits : store.Fits .initial [Store.root])
    (named : ∀ own, name = some own → own.isEmpty = false →
      own ∉ params ∧ ∃ ref, store.lookup? Store.root own = some (.function ref))
    {ref : FunctionRef} {callable : Callable} (found : store.functions[ref]? = some callable) {label : String}
    (calls : callable.Calls ⟨label, params, body, Store.root⟩ (.prim result) store)
    {args : List Value} (typed : List.Forall₂ (fun tag arg => store.type? arg = some (.prim tag)) tags args)
    (host : Host) (effort : Nat) {value : Value} {later : Store}
    (finished : callWithin effort ref args host store = .done value later) :
    later.type? value = some (.prim result) ∨ value = .undefined ∧ anyTerminal body = false := by
  have accepted : Accepts (bodyScope .initial name params (tags.map .prim) (.prim result)) body := by
    rw [Node.infer, bind_eq_ok] at inferred
    obtain ⟨bodyType, _, ofBody, _⟩ := inferred
    obtain ⟨_, inner, ofBody⟩ := inside_eq_ok.mp ofBody
    exact ⟨bodyType, inner, ofBody⟩
  have ofArgs : List.Forall₂ store.HasType (tags.map .prim) args :=
    List.forall₂_map_left_iff.mpr (typed.imp fun _ _ told => .of_type? told)
  cases effort with
  | zero => cases finished
  | succ effort =>
    have ends : (callWithin (effort + 1) ref args host store).Meets _ :=
      callFunction_answers found calls (callClosure_answers fits ofArgs named accepted only effort)
    rw [finished] at ends
    exact ends.imp_left fun ofValue => ofValue.type?_eq scalar

theorem exists_of_isOk {ε α : Type} (result : Except ε α) (passes : result.isOk = true) :
    ∃ value, result = .ok value := by
  cases result with
  | ok value => exact ⟨value, rfl⟩
  | error => cases passes

/-- The search for a number comes back from within a loop. -/
theorem callWithin_returns_text_from_loop :
    let body : List Node := [
      .declare "number" "index" (.literal (.number (.int 0))),
      .whileLoop (.binary "<" (.reference "index") (.reference "count"))
        [.branch (.binary "==" (.reference "index") (.literal (.number (.int 2))))
          [.giveBack (some (.literal (.string "found")))] none,
        .assign "index" (.binary "+" (.reference "index") (.literal (.number (.int 1))))],
      .giveBack (some (.literal (.string "missing")))]
    let closure : Closure := ⟨"find", ["count"], body, Store.root⟩
    (∃ type after, (Node.function none ["count"] body (some [.number]) (some .string) false).infer .initial =
      (.ok type, after)) ∧
    allReturnOnly .string true (bodyScope .initial none ["count"] [.number] .string) body = true ∧
    ∃ value later, callWithin 9 Store.initial.functions.size [.number (.int 5)] default
        (Store.initial.addFunction (.closure closure)).2 = .done value later ∧
      value = .string "found" ∧ later.type? value = some .string := by
  intro body closure
  obtain ⟨type, inferred⟩ := exists_of_isOk
    ((Node.function none ["count"] body (some [.number]) (some .string) false).infer .initial).1 (by decide +kernel)
  have only : allReturnOnly .string true (bodyScope .initial none ["count"] [.number] .string) body = true := by
    decide +kernel
  obtain ⟨value, later, ran, finished⟩ := Outcome.exists_of_isDone
    (callWithin 9 Store.initial.functions.size [.number (.int 5)] default
      (Store.initial.addFunction (.closure closure)).2) (fun value _ => value == .string "found") (by decide +kernel)
  cases eq_of_beq finished
  have fits : (Store.initial.addFunction (.closure closure)).2.Fits .initial [Store.root] :=
    Store.initial_fits.extend ⟨fun _ _ found => found, fun _ _ found => found⟩ rfl
  have found : (Store.initial.addFunction (.closure closure)).2.functions[Store.initial.functions.size]? =
      some (.closure closure) := by simp [Store.addFunction]
  have told := @callWithin_returns_declared_type none ["count"] body [.number] .string false type _
    (by simp) (Prod.ext inferred rfl) only _ fits (by simp) _ _ found "find" .plain _ (.cons rfl .nil) default 9 _
    later ran
  refine ⟨⟨type, _, Prod.ext inferred rfl⟩, only, _, later, ran, rfl, ?_⟩
  exact told.resolve_right fun ended => by cases ended.1

/-- Inference looks at the last statement of a body only. The first of these bodies returns a text before it
comes there, and the second one returns nothing at all. -/
theorem accepted_bodies_return_other_types :
    let bodies : List (List Node) := [
      [.branch (.literal (.bool true)) [.giveBack (some (.literal (.string "early")))] none,
        .giveBack (some (.literal (.number (.int 1))))],
      [.literal (.number (.int 1))]]
    ∀ body ∈ bodies,
      let function := Node.function (some "count") [] body (some []) (some .number) false
      (∃ type after, function.infer .initial = (.ok type, after)) ∧
      ∃ value later, ((Node.declare "function" "count" function).exec 9 Store.root >>= fun _ =>
          (Node.call "count" []).exec 9 Store.root) default .initial = .done value later ∧
        later.type? value ≠ some .number := by
  intro bodies body member function
  have accepted : ∀ body ∈ bodies, ((Node.function (some "count") [] body (some []) (some .number)
      false).infer .initial).1.isOk = true := by decide +kernel
  have called : ∀ body ∈ bodies, (((Node.declare "function" "count" (.function (some "count") [] body
      (some []) (some .number) false)).exec 9 Store.root >>= fun _ => (Node.call "count" []).exec 9 Store.root)
      default .initial).isDone (fun value _ => value == .string "early" || value == .undefined) = true := by
    decide +kernel
  obtain ⟨type, inferred⟩ := exists_of_isOk _ (accepted body member)
  obtain ⟨value, later, ran, finished⟩ := Outcome.exists_of_isDone _ _ (called body member)
  refine ⟨⟨type, _, Prod.ext inferred rfl⟩, value, later, ran, ?_⟩
  rcases Bool.or_eq_true_iff.mp finished with text | none
  · rw [eq_of_beq text]
    simp [Store.type?, Store.picture?, Store.pictureWithin, Picture.type, Ty.string, Ty.number]
  · rw [eq_of_beq none]
    simp [Store.type?, Store.picture?, Store.pictureWithin, Picture.type, Ty.undefined, Ty.number]

end TreeScript
