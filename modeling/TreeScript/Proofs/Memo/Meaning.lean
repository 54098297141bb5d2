import TreeScript.Proofs.Memo.Scalars
import TreeScript.Proofs.Tree.Sites

/-! # What functions that call themselves mean

A function literal that works on scalars and calls nothing but itself is a function in the
mathematical sense: its answer depends on the arguments alone. That function is given here without
a store, frames or a cache, by an evaluation that is allowed an effort as the evaluator is. More effort
never changes an answer, nor do more calls that are allowed.
-/

namespace TreeScript

variable {α β : Type}

/-! ## Answers -/

/-- How an evaluation ends, if it does so within the effort. -/
def Answer (α : Type) := Option (Except Stop α)

/-- The end of an outcome, whatever store it leaves. -/
def Outcome.answer : Outcome α → Answer α
  | .done result _ => some (.ok result)
  | .stopped reason _ => some (.error reason)
  | .unfinished _ => none

namespace Answer

def andThen (answer : Answer α) (next : α → Answer β) : Answer β :=
  match answer with
  | some (.ok result) => next result
  | some (.error reason) => some (.error reason)
  | none => none

instance : Monad Answer where
  pure result := some (.ok result)
  bind := andThen

def stop (reason : Stop) : Answer α := some (.error reason)

/-- The answer of a call across the boundary of a function, which turns faults into failures. -/
def hosted (name : String) : Answer α → Answer α
  | some (.error (.fault cause)) => stop (.failure (.host name cause.message))
  | answer => answer

/-- The answer of a function with the given answer of its body. -/
def absorbReturn (name : String) : Answer Value → Answer Value
  | some (.ok _) => pure .undefined
  | some (.error (.signal (.returned value))) => pure value
  | some (.error (.signal signal)) =>
    stop (.failure (.straySignal signal.keyword (.function name)))
  | answer => answer

/-- Where there is an answer, it is also the later one. -/
def IsBelow (answer later : Answer α) : Prop := ∀ ending, answer = some ending → later = some ending

theorem IsBelow.refl (answer : Answer α) : answer.IsBelow answer := fun _ same => same

theorem IsBelow.bind {answer later : Answer α} {next laterNext : α → Answer β}
    (first : answer.IsBelow later) (rest : ∀ result, (next result).IsBelow (laterNext result)) :
    (answer >>= next).IsBelow (later >>= laterNext) := by
  intro ending ends
  change andThen answer next = some ending at ends
  change andThen later laterNext = some ending
  cases given : answer with
  | none => simp [andThen, given] at ends
  | some first' =>
    rw [first first' given]
    rw [given] at ends
    cases first' with
    | ok result => exact rest result ending ends
    | error reason => exact ends

/-- What is done with an answer does not depend on the effort. -/
theorem IsBelow.map {answer later : Answer α} (below : answer.IsBelow later)
    {change : Answer α → Answer β} (nothing : change none = none) :
    (change answer).IsBelow (change later) := by
  cases given : answer with
  | none =>
    rw [nothing]
    exact fun _ same => by cases same
  | some ending =>
    rw [below ending given]
    exact .refl _

end Answer

/-! ## Literals that call themselves -/

/-- What a node may be in the body of a function that works on scalars and calls itself only. -/
def Node.isSelfCalling (self : String) (params : List String) : Node → Bool
  | literal (.symbol _) => false
  | literal _ | binary _ _ _ | branch _ _ _ | giveBack _ => true
  | reference name => params.contains name
  | call name _ => name == self
  | _ => false

/-- A function literal that works on scalars and calls nothing but itself. -/
structure Recursion where
  name : String
  params : List String
  body : List Node
  /-- The function can be seen in its own body. -/
  unshadowed : name ∉ params
  selfCalling : allEverywhere (fun _ => Node.isSelfCalling name params) .ofFunction body = true

/-- An evaluation that knows the values of parameters, and how to call the function itself. -/
structure Meaning where
  exec : Node → Table Value → Answer Value
  call : List Value → Answer Value

namespace Meaning

/-- The answer of statements in order. -/
def runFrom (meaning : Meaning) (values : Table Value) (last : Value) : List Node → Answer Value
  | [] => pure last
  | node :: rest => do
    let value ← meaning.exec node values
    meaning.runFrom values value rest

def run (meaning : Meaning) (values : Table Value) (statements : List Node) : Answer Value :=
  meaning.runFrom values .undefined statements

/-- The answers of expressions in order. -/
def each (meaning : Meaning) (values : Table Value) : List Node → Answer (List Value)
  | [] => pure []
  | node :: rest => do
    let value ← meaning.exec node values
    return value :: (← meaning.each values rest)

def condition (meaning : Meaning) (node : Node) (values : Table Value) : Answer Bool := do
  match ← meaning.exec node values with
  | .bool value => return value
  | other => Answer.stop (.failure (.conditionNotBoolean other))

/-- The answer of an operator on scalars, which looks at no store. Of the host it needs the limit on the digits
of an integer. -/
def operate (limit : Nat) (token : String) (left right : Value) : Answer Value :=
  match Operator.ofToken? token with
  | some operator => (operator.apply left right { (default : Host) with digitLimit := limit } .initial).answer
  | none => Answer.stop (.failure (.unknownOperator token))

/-- The answer of the parts that a self-calling function is made of. -/
def execNode (limit : Nat) (meaning : Meaning) (node : Node) (values : Table Value) : Answer Value :=
  match node with
  | .literal value => pure value.toValue
  | .reference name =>
    match values.get? name with
    | some value => pure value
    | none => Answer.stop (.failure (.unboundVariable name))
  | .binary token left right => do
    let leftValue ← meaning.exec left values
    let rightValue ← meaning.exec right values
    operate limit token leftValue rightValue
  | .branch condition thenBranch elseBranch => do
    match ← meaning.condition condition values, elseBranch with
    | true, _ => meaning.run values thenBranch
    | false, some body => meaning.run values body
    | false, none => return .undefined
  | .giveBack none => Answer.stop (.signal (.returned .undefined))
  | .giveBack (some expression) => do
    let value ← meaning.exec expression values
    Answer.stop (.signal (.returned value))
  | .call name args => do
    let argValues ← meaning.each values args
    (meaning.call argValues).hosted name
  | _ => none

end Meaning

namespace Recursion

/-- The answer of the function on given arguments. -/
def callSelf (function : Recursion) (meaning : Meaning) (args : List Value) : Answer Value :=
  if args.length = function.params.length then
    (meaning.run (Table.ofList (function.params.zip args)) function.body).absorbReturn
      (functionName (some function.name))
  else
    Answer.stop (.failure (.argumentCount function.params.length args.length
      (functionName (some function.name))))

/-- What the function means, as far as the effort goes and as far as it is called with arguments that it may have:
other calls have no answer. -/
def denote (function : Recursion) (limit : Nat) (may : List Value → Bool) : Nat → Meaning
  | 0 => ⟨fun _ _ => none, fun _ => none⟩
  | effort + 1 =>
    ⟨(function.denote limit may effort).execNode limit,
      fun args => if may args then function.callSelf (function.denote limit may effort) args else none⟩

end Recursion

/-! ## More effort, more calls -/

namespace Meaning

/-- Where one evaluation gives an answer, so does the other. -/
structure IsBelow (meaning later : Meaning) : Prop where
  exec : ∀ node values, (meaning.exec node values).IsBelow (later.exec node values)
  call : ∀ args, (meaning.call args).IsBelow (later.call args)

variable {meaning later : Meaning}

namespace IsBelow

variable (below : meaning.IsBelow later)

include below

theorem runFrom (values : Table Value) (last : Value) (statements : List Node) :
    (meaning.runFrom values last statements).IsBelow (later.runFrom values last statements) := by
  induction statements generalizing last with
  | nil => exact .refl _
  | cons node rest ih => exact (below.exec node values).bind ih

theorem each (values : Table Value) (nodes : List Node) :
    (meaning.each values nodes).IsBelow (later.each values nodes) := by
  induction nodes with
  | nil => exact .refl _
  | cons node rest ih => exact (below.exec node values).bind fun _ => ih.bind fun _ => .refl _

theorem condition (node : Node) (values : Table Value) :
    (meaning.condition node values).IsBelow (later.condition node values) :=
  (below.exec node values).bind fun _ => .refl _

theorem execNode (limit : Nat) (node : Node) (values : Table Value) :
    (meaning.execNode limit node values).IsBelow (later.execNode limit node values) := by
  cases node with
  | binary token left right =>
    exact (below.exec left values).bind fun _ => (below.exec right values).bind fun _ => .refl _
  | branch condition thenBranch elseBranch =>
    refine (below.condition condition values).bind fun holds => ?_
    cases holds with
    | true => exact below.runFrom values _ thenBranch
    | false =>
      cases elseBranch with
      | none => exact .refl _
      | some body => exact below.runFrom values _ body
  | giveBack expression =>
    cases expression with
    | none => exact .refl _
    | some expression => exact (below.exec expression values).bind fun _ => .refl _
  | call name args =>
    exact (below.each values args).bind fun argValues => (below.call argValues).map rfl
  | _ => exact .refl _

theorem callSelf (function : Recursion) (args : List Value) :
    (function.callSelf meaning args).IsBelow (function.callSelf later args) := by
  unfold Recursion.callSelf
  split
  · exact (below.runFrom _ _ function.body).map rfl
  · exact .refl _

end IsBelow

end Meaning

namespace Recursion

theorem denote_isBelow (function : Recursion) (limit : Nat) {may more : List Value → Bool}
    (wider : ∀ args, may args = true → more args = true) {effort later : Nat} (le : effort ≤ later) :
    (function.denote limit may effort).IsBelow (function.denote limit more later) := by
  induction effort generalizing later with
  | zero => exact ⟨fun _ _ _ none => (by cases none), fun _ _ none => (by cases none)⟩
  | succ effort ih =>
    obtain ⟨later, rfl⟩ := Nat.exists_eq_add_one_of_ne_zero (Nat.ne_zero_of_lt le)
    have ih := ih (Nat.le_of_succ_le_succ le)
    refine ⟨ih.execNode limit, fun args => ?_⟩
    cases allowed : may args with
    | false => simp [denote, allowed, Answer.IsBelow]
    | true =>
      simp only [denote, allowed, wider args allowed]
      exact ih.callSelf function args

end Recursion

end TreeScript
