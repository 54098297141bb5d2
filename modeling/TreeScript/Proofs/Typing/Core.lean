import TreeScript.Proofs.Tree.Sites
import TreeScript.Proofs.Typing.Scopes

/-! # Inference of the core language

The core language has no functions and changes no cell: its nodes are literals, references,
operators, arrays, objects and properties, and the statements over them. A declaration of the core
stands among statements, and not directly in the scope of a loop that is executed again and again,
where it would be in force before it has been reached.

What inference has established about a node that it accepts is read off node by node. Of all core
nodes only a declaration extends the scope that it stands in.
-/

namespace TreeScript

namespace Node

def isDeclaration : Node → Bool
  | declare _ _ _ => true
  | _ => false

/-- The parts of a node where no declaration may stand: operands, and what a loop executes again and again in one
scope. -/
def operands : Node → List Node
  | declare _ _ part | assign _ part | raise part | property part _ | branch part _ _ | forEach _ part _ => [part]
  | binary _ left right => [left, right]
  | array elements => elements
  | object properties => properties.map Prod.snd
  | select expression cases _ => expression :: cases.map Prod.fst
  | whileLoop condition body | doWhile body condition => condition :: body
  | forLoop _ condition update _ => condition.toList ++ update.toList
  | _ => []

/-- Whether a node is one of the core language, and has no declaration for an operand. -/
def isCore (_ : Site) (node : Node) : Bool :=
  node.operands.all (!·.isDeclaration) && match node with
    | declare kind _ _ => kind != "function"
    | giveBack _ | function _ _ _ _ _ _ | arrow _ _ | call _ _ | method _ _ _ | setIndex _ _ _ | element _ _
    | host _ _ _ => false
    | _ => true

/-- The text of the node belongs to the core language, where `mayDeclare` tells whether a declaration may stand in
its place. -/
structure IsCore (mayDeclare : Bool) (node : Node) : Prop where
  place : (mayDeclare || !node.isDeclaration) = true
  text : ∃ site, node.everywhere isCore site = true

theorem exists_mem_parts_of_mem_operands {node part : Node} (member : part ∈ node.operands) (site : Site) :
    ∃ inner, (inner, part) ∈ node.parts site := by
  cases node <;> simp [operands, parts] at member ⊢ <;> grind

namespace IsCore

variable {node : Node} {mayDeclare : Bool}

theorem here (core : node.IsCore mayDeclare) (site : Site) : node.isCore site = true :=
  have ⟨_, core⟩ := core.text
  (everywhere_iff.mp core).1

theorem parts (core : node.IsCore mayDeclare) : ∃ site, ∀ part ∈ node.parts site, part.2.IsCore true :=
  have ⟨site, core⟩ := core.text
  ⟨site, fun part member => ⟨rfl, part.1, (everywhere_iff.mp core).2 part member⟩⟩

theorem operands (core : node.IsCore mayDeclare) : ∀ part ∈ node.operands, part.IsCore false := by
  intro part member
  obtain ⟨site, parts⟩ := core.parts
  obtain ⟨inner, inside⟩ := exists_mem_parts_of_mem_operands member site
  exact ⟨List.all_eq_true.mp (Bool.and_eq_true_iff.mp (core.here site)).1 part member, (parts _ inside).text⟩

end IsCore

end Node

/-! ## Steps of inference -/

namespace Inference

variable {α β : Type} {scope after : TypeScope}

theorem bind_eq_ok {step : Inference α} {next : α → Inference β} {result : β} :
    (step >>= next) scope = (.ok result, after) ↔
      ∃ value middle, step scope = (.ok value, middle) ∧ next value middle = (.ok result, after) := by
  change ExceptT.bindCont next (step scope).1 (step scope).2 = (.ok result, after) ↔ _
  cases ran : step scope with
  | mk answer middle =>
    cases answer with
    | ok value =>
      constructor
      · exact fun rest => ⟨value, middle, rfl, rest⟩
      · rintro ⟨_, _, same, rest⟩
        cases same
        exact rest
    | error cause =>
      constructor
      · intro rest
        cases rest
      · rintro ⟨_, _, same, _⟩
        cases same

theorem pure_eq_ok {value result : α} :
    (pure value : Inference α) scope = (.ok result, after) ↔ value = result ∧ scope = after := by
  change ((Except.ok value, scope) : Except Failure α × TypeScope) = _ ↔ _
  simp

theorem throw_ne_ok {cause : Failure} {result : α} :
    ¬(throw cause : Inference α) scope = (.ok result, after) := by
  change ¬((Except.error cause, scope) : Except Failure α × TypeScope) = _
  simp

theorem fail_ne_ok {cause : Mismatch} {result : α} : ¬(fail cause : Inference α) scope = (.ok result, after) :=
  throw_ne_ok

/-- A step that fails unless a condition holds, and goes on if it does. -/
theorem guard_eq_ok {condition : Bool} {cause : Mismatch} {next : Inference α} {result : α} :
    (if (!condition) = true then (do
        fail cause
        next) else next) scope = (.ok result, after) ↔
      condition = true ∧ next scope = (.ok result, after) := by
  cases condition with
  | true => simp
  | false =>
    simp only [Bool.not_false, if_true, bind_eq_ok, Bool.false_eq_true, false_and, iff_false]
    rintro ⟨_, _, failed, _⟩
    exact fail_ne_ok failed

theorem lookup_eq_ok {name : String} {type : Ty} :
    lookup name scope = (.ok type, after) ↔ scope.lookup? name = some type ∧ scope = after := by
  unfold lookup
  rw [bind_eq_ok]
  constructor
  · rintro ⟨_, _, read, answer⟩
    cases read
    cases found : scope.lookup? name with
    | some known =>
      rw [found] at answer
      obtain ⟨same, kept⟩ := pure_eq_ok.mp answer
      exact ⟨congrArg some same, kept⟩
    | none =>
      rw [found] at answer
      exact absurd answer throw_ne_ok
  · rintro ⟨found, kept⟩
    refine ⟨scope, scope, rfl, ?_⟩
    rw [found]
    exact pure_eq_ok.mpr ⟨rfl, kept⟩

theorem define_eq_ok {name : String} {type : Ty} {result : Unit} :
    define name type scope = (.ok result, after) ↔ scope.define name type = after := by
  change ((Except.ok PUnit.unit, scope.define name type) : Except Failure PUnit × TypeScope) = _ ↔ _
  simp

theorem inside_eq_ok {label : String} {bindings : Table Ty} {step : Inference α} {result : α} :
    inside label bindings step scope = (.ok result, after) ↔
      scope = after ∧ ∃ inner, step (⟨label, bindings⟩ :: scope) = (.ok result, inner) := by
  unfold inside
  cases ran : step (⟨label, bindings⟩ :: scope) with
  | mk answer inner =>
    constructor
    · intro same
      cases same
      exact ⟨rfl, inner, rfl⟩
    · rintro ⟨kept, _, same⟩
      cases same
      rw [kept]

end Inference

/-- Inference accepts statements in a scope. -/
def Accepts (scope : TypeScope) (statements : List Node) : Prop :=
  ∃ type after, inferLast .void statements scope = (.ok type, after)

open Inference

variable {scope after : TypeScope} {type : Ty}

/-! ## Nodes that are accepted -/

namespace Node

-- The equations of inference, made once for all the lemmas below.
attribute [local simp] infer

theorem of_infer_declare {kind name : String} {initial : Node}
    (inferred : (Node.declare kind name initial).infer scope = (.ok type, after)) :
    ∃ known middle expected, DeclarationKind.ofName? kind = some known ∧
      initial.infer scope = (.ok type, middle) ∧ known.expectedType? type = some expected ∧
      type.same expected = true ∧ middle.define name type = after := by
  rw [infer] at inferred
  cases found : DeclarationKind.ofName? kind with
  | none =>
    rw [found] at inferred
    exact absurd inferred throw_ne_ok
  | some known =>
    simp only [found, bind_eq_ok] at inferred
    obtain ⟨actual, middle, ofInitial, rest⟩ := inferred
    cases wanted : known.expectedType? actual with
    | none =>
      simp only [wanted] at rest
      exact absurd rest fail_ne_ok
    | some expected =>
      simp only [wanted] at rest
      split at rest
      · next equal =>
        simp only [bind_eq_ok, define_eq_ok, pure_eq_ok] at rest
        obtain ⟨_, _, defined, rfl, rfl⟩ := rest
        exact ⟨known, middle, expected, rfl, ofInitial, wanted, equal, defined⟩
      · exact absurd rest fail_ne_ok

theorem of_infer_assign {name : String} {expression : Node}
    (inferred : (Node.assign name expression).infer scope = (.ok type, after)) :
    ∃ new, scope.lookup? name = some type ∧ expression.infer scope = (.ok new, after) ∧
      type.same new = true := by
  simp only [infer, bind_eq_ok, lookup_eq_ok] at inferred
  obtain ⟨current, _, ⟨known, rfl⟩, new, middle, ofExpression, rest⟩ := inferred
  split at rest
  · next equal =>
    obtain ⟨rfl, rfl⟩ := pure_eq_ok.mp rest
    exact ⟨new, known, ofExpression, equal⟩
  · exact absurd rest fail_ne_ok

theorem of_infer_binary {token : String} {left right : Node}
    (inferred : (Node.binary token left right).infer scope = (.ok type, after)) :
    ∃ leftType middle rightType operator, left.infer scope = (.ok leftType, middle) ∧
      right.infer middle = (.ok rightType, after) ∧ Operator.ofToken? token = some operator ∧
      operator.infer leftType rightType = .ok type := by
  simp only [infer, bind_eq_ok] at inferred
  obtain ⟨leftType, middle, ofLeft, rightType, last, ofRight, rest⟩ := inferred
  cases found : Operator.ofToken? token with
  | none =>
    simp only [found] at rest
    exact absurd rest throw_ne_ok
  | some operator =>
    simp only [found] at rest
    have answered : (operator.infer leftType rightType, last) = (Except.ok type, after) := rest
    obtain ⟨result, kept⟩ := Prod.mk.inj answered
    exact ⟨leftType, middle, rightType, operator, ofLeft, kept ▸ ofRight, rfl, result⟩

theorem of_infer_property {target : Node} {name : String}
    (inferred : (Node.property target name).infer scope = (.ok type, after)) :
    ∃ targetType, target.infer scope = (.ok targetType, after) ∧ (type = .any ∨
      ∃ properties, targetType = .object properties ∧ type = (Ty.property? properties name).getD .any) := by
  simp only [infer, bind_eq_ok] at inferred
  obtain ⟨targetType, middle, ofTarget, rest⟩ := inferred
  cases targetType with
  | object properties =>
    obtain ⟨rfl, rfl⟩ := pure_eq_ok.mp rest
    exact ⟨_, ofTarget, .inr ⟨properties, rfl, rfl⟩⟩
  | _ =>
    obtain ⟨rfl, rfl⟩ := pure_eq_ok.mp rest
    exact ⟨_, ofTarget, .inl rfl⟩

theorem of_infer_branch {condition : Node} {thenBranch : List Node} {elseBranch : Option (List Node)}
    (inferred : (Node.branch condition thenBranch elseBranch).infer scope = (.ok type, after)) :
    ∃ conditionType middle, condition.infer scope = (.ok conditionType, middle) ∧
      conditionType.same .boolean = true ∧ Accepts (⟨"then", []⟩ :: middle) thenBranch ∧
      inferOptional "else" elseBranch middle = (.ok (), after) ∧ type = .void := by
  simp only [infer, bind_eq_ok, guard_eq_ok, inside_eq_ok, pure_eq_ok] at inferred
  obtain ⟨conditionType, middle, ofCondition, isBoolean, thenType, _, ⟨rfl, inner, ofThen⟩, _, _,
    ofElse, rfl, rfl⟩ := inferred
  exact ⟨conditionType, middle, ofCondition, isBoolean, ⟨thenType, inner, ofThen⟩, ofElse, rfl⟩

theorem of_infer_select {expression : Node} {cases : List (Node × List Node)}
    {otherwise : Option (List Node)}
    (inferred : (Node.select expression cases otherwise).infer scope = (.ok type, after)) :
    ∃ control first last, expression.infer scope = (.ok control, first) ∧
      inferCases control cases first = (.ok (), last) ∧
      inferOptional "default" otherwise last = (.ok (), after) ∧ type = .void := by
  simp only [infer, bind_eq_ok, pure_eq_ok] at inferred
  obtain ⟨control, first, ofExpression, _, last, ofCases, _, _, ofOtherwise, rfl, rfl⟩ := inferred
  exact ⟨control, first, last, ofExpression, ofCases, ofOtherwise, rfl⟩

variable {body : List Node}

theorem of_infer_while {condition : Node}
    (inferred : (Node.whileLoop condition body).infer scope = (.ok type, after)) :
    scope = after ∧ type = .void ∧ ∃ conditionType middle,
      condition.infer (⟨"while", []⟩ :: scope) = (.ok conditionType, middle) ∧
      conditionType.same .boolean = true ∧ Accepts middle body := by
  simp only [infer, bind_eq_ok, guard_eq_ok, inside_eq_ok, pure_eq_ok] at inferred
  obtain ⟨kept, _, conditionType, middle, ofCondition, isBoolean, bodyType, inner, ofBody, isVoid, _⟩ :=
    inferred
  exact ⟨kept, isVoid.symm, conditionType, middle, ofCondition, isBoolean, bodyType, inner, ofBody⟩

theorem of_infer_doWhile {condition : Node}
    (inferred : (Node.doWhile body condition).infer scope = (.ok type, after)) :
    scope = after ∧ type = .void ∧ ∃ bodyType middle conditionType last,
      inferLast .void body (⟨"do-while", []⟩ :: scope) = (.ok bodyType, middle) ∧
      condition.infer middle = (.ok conditionType, last) ∧
      conditionType.same .boolean = true := by
  simp only [infer, bind_eq_ok, guard_eq_ok, inside_eq_ok, pure_eq_ok] at inferred
  obtain ⟨kept, _, bodyType, middle, ofBody, conditionType, last, ofCondition, isBoolean, isVoid, _⟩ :=
    inferred
  exact ⟨kept, isVoid.symm, bodyType, middle, conditionType, last, ofBody, ofCondition, isBoolean⟩

theorem of_infer_for {init condition update : Option Node}
    (inferred : (Node.forLoop init condition update body).infer scope = (.ok type, after)) :
    scope = after ∧ type = .void ∧ ∃ initType first conditionType second updateType third,
      inferMaybe init (⟨"for", []⟩ :: scope) = (.ok initType, first) ∧
      inferMaybe condition first = (.ok conditionType, second) ∧
      (∀ given, conditionType = some given → given.same .boolean = true) ∧
      inferMaybe update second = (.ok updateType, third) ∧
      Accepts (⟨"for body", []⟩ :: third) body := by
  rw [infer, inside_eq_ok] at inferred
  simp only [bind_eq_ok] at inferred
  obtain ⟨kept, last, initType, first, ofInit, conditionType, second, ofCondition, rest⟩ := inferred
  have checked : (∀ given, conditionType = some given → given.same .boolean = true) ∧
      (do
        let _ ← inferMaybe update
        let _ ← Inference.inside "for body" [] (inferLast .void body)
        return Ty.void : Inference Ty) second = (.ok type, last) := by
    cases conditionType with
    | none => exact ⟨by simp, rest⟩
    | some given =>
      obtain ⟨isBoolean, rest⟩ := guard_eq_ok.mp rest
      exact ⟨fun _ same => Option.some.inj same ▸ isBoolean, rest⟩
  obtain ⟨isBoolean, rest⟩ := checked
  simp only [bind_eq_ok, inside_eq_ok, pure_eq_ok] at rest
  obtain ⟨updateType, third, ofUpdate, bodyType, _, ⟨rfl, inner, ofBody⟩, isVoid, _⟩ := rest
  exact ⟨kept, isVoid.symm, initType, first, conditionType, second, updateType, third, ofInit,
    ofCondition, isBoolean, ofUpdate, bodyType, inner, ofBody⟩

theorem of_infer_forEach {item : String} {iterable : Node}
    (inferred : (Node.forEach item iterable body).infer scope = (.ok type, after)) :
    type = .void ∧ ∃ element, iterable.infer scope = (.ok (.array element), after) ∧
      Accepts (⟨"for-each", [(item, element)]⟩ :: after) body := by
  simp only [infer, bind_eq_ok] at inferred
  obtain ⟨arrayType, middle, ofIterable, rest⟩ := inferred
  cases arrayType with
  | array element =>
    simp only [bind_eq_ok, inside_eq_ok, pure_eq_ok] at rest
    obtain ⟨bodyType, _, ⟨rfl, inner, ofBody⟩, rfl, rfl⟩ := rest
    exact ⟨rfl, element, ofIterable, bodyType, inner, ofBody⟩
  | _ => exact absurd rest fail_ne_ok

theorem of_infer_tryCatch {tryBlock catchBlock : List Node} {catchVar : String}
    (inferred : (Node.tryCatch tryBlock catchVar catchBlock).infer scope = (.ok type, after)) :
    scope = after ∧ type = .void ∧ Accepts (⟨"try", []⟩ :: scope) tryBlock ∧
      Accepts (⟨"catch", [(catchVar, Failure.entriesType)]⟩ :: scope) catchBlock := by
  simp only [infer, bind_eq_ok, inside_eq_ok, pure_eq_ok] at inferred
  obtain ⟨tryType, _, ⟨rfl, tryInner, ofTry⟩, catchType, _, ⟨rfl, catchInner, ofCatch⟩, rfl, rfl⟩ :=
    inferred
  exact ⟨rfl, rfl, ⟨tryType, tryInner, ofTry⟩, catchType, catchInner, ofCatch⟩

end Node

theorem of_inferOptional {label : String} {body : Option (List Node)}
    (inferred : inferOptional label body scope = (.ok (), after)) :
    scope = after ∧ ∀ statements, body = some statements → Accepts (⟨label, []⟩ :: scope) statements := by
  cases body with
  | none =>
    rw [inferOptional, pure_eq_ok] at inferred
    exact ⟨inferred.2, fun _ same => by cases same⟩
  | some statements =>
    simp only [inferOptional, bind_eq_ok, inside_eq_ok, pure_eq_ok] at inferred
    obtain ⟨bodyType, _, ⟨rfl, inner, ofBody⟩, _, rfl⟩ := inferred
    refine ⟨rfl, fun _ same => ?_⟩
    cases same
    exact ⟨bodyType, inner, ofBody⟩

/-! ## Lists of nodes that are accepted -/

section Lists

variable {good : Node → Prop} {holds : TypeScope → Prop}
  (kept : ∀ {node scope after type}, good node → holds scope → node.infer scope = (.ok type, after) → holds after)

include kept

/-- What holds of the scope and is kept by each node holds wherever one of them is inferred. -/
theorem of_inferEach {nodes : List Node} {types : List Ty} (each : ∀ node ∈ nodes, good node) (start : holds scope)
    (inferred : inferEach nodes scope = (.ok types, after)) :
    holds after ∧ List.Forall₂ (fun node type => good node ∧
      ∃ scope after, holds scope ∧ node.infer scope = (.ok type, after)) nodes types := by
  induction nodes generalizing scope types with
  | nil =>
    obtain ⟨rfl, rfl⟩ := pure_eq_ok.mp inferred
    exact ⟨start, .nil⟩
  | cons node rest ih =>
    obtain ⟨first, others⟩ := List.forall_mem_cons.mp each
    simp only [inferEach, bind_eq_ok, pure_eq_ok] at inferred
    obtain ⟨_, _, ofNode, _, _, ofRest, rfl, rfl⟩ := inferred
    obtain ⟨last, typed⟩ := ih others (kept first start ofNode) ofRest
    exact ⟨last, .cons ⟨first, _, _, start, ofNode⟩ typed⟩

theorem of_inferProperties {properties : List (String × Node)} {types : List (String × Ty)}
    (each : ∀ entry ∈ properties, good entry.2) (start : holds scope)
    (inferred : inferProperties properties scope = (.ok types, after)) :
    holds after ∧ List.Forall₂ (fun entry property => property.1 = entry.1 ∧ good entry.2 ∧
      ∃ scope after, holds scope ∧ entry.2.infer scope = (.ok property.2, after)) properties types := by
  induction properties generalizing scope types with
  | nil =>
    obtain ⟨rfl, rfl⟩ := pure_eq_ok.mp inferred
    exact ⟨start, .nil⟩
  | cons entry rest ih =>
    obtain ⟨name, node⟩ := entry
    obtain ⟨first, others⟩ := List.forall_mem_cons.mp each
    simp only [inferProperties, bind_eq_ok, pure_eq_ok] at inferred
    obtain ⟨_, _, ofNode, _, _, ofRest, rfl, rfl⟩ := inferred
    obtain ⟨last, typed⟩ := ih others (kept first start ofNode) ofRest
    exact ⟨last, .cons ⟨rfl, first, _, _, start, ofNode⟩ typed⟩

end Lists

/-- Cases whose candidates leave the scope as it is are accepted one by one. -/
theorem of_inferCases {control : Ty} {cases : List (Node × List Node)}
    (plain : ∀ entry ∈ cases, ∀ type after, entry.1.infer scope = (.ok type, after) → scope = after)
    (inferred : inferCases control cases scope = (.ok (), after)) :
    scope = after ∧ ∀ entry ∈ cases, (∃ type, entry.1.infer scope = (.ok type, scope)) ∧
      Accepts (⟨"case", []⟩ :: scope) entry.2 := by
  induction cases with
  | nil => exact ⟨(pure_eq_ok.mp inferred).2, fun _ member => absurd member List.not_mem_nil⟩
  | cons entry rest ih =>
    obtain ⟨candidate, body⟩ := entry
    obtain ⟨plainFirst, plainRest⟩ := List.forall_mem_cons.mp plain
    simp only [inferCases, bind_eq_ok, guard_eq_ok, inside_eq_ok] at inferred
    obtain ⟨type, _, ofCandidate, _, bodyType, _, ⟨rfl, inner, ofBody⟩, ofRest⟩ := inferred
    obtain rfl := plainFirst type _ ofCandidate
    obtain ⟨rfl, others⟩ := ih plainRest ofRest
    exact ⟨rfl, List.forall_mem_cons.mpr ⟨⟨⟨type, ofCandidate⟩, bodyType, inner, ofBody⟩, others⟩⟩

/-! ## The scope after a node -/

/-- A core node in a place where no declaration may stand leaves the scope as it is. -/
theorem Node.infer_scope_eq {node : Node} {scope after : TypeScope} {type : Ty} (core : node.IsCore false)
    (inferred : node.infer scope = (.ok type, after)) : scope = after := by
  have ih {part scope after type} (member : part ∈ node.operands)
      (inferred : part.infer scope = (.ok type, after)) : scope = after :=
    have ⟨_, inside⟩ := exists_mem_parts_of_mem_operands member .ofFunction
    have smaller : sizeOf part < sizeOf node := sizeOf_part_lt inside
    infer_scope_eq (core.operands part member) inferred
  have noDeclaration := core.place
  cases node with
  | literal | breakLoop | continueLoop => exact (pure_eq_ok.mp inferred).2
  | reference => exact (lookup_eq_ok.mp inferred).2
  | assign =>
    obtain ⟨_, _, ofExpression, _⟩ := of_infer_assign inferred
    exact ih List.mem_cons_self ofExpression
  | raise =>
    simp only [infer, bind_eq_ok, pure_eq_ok] at inferred
    obtain ⟨_, _, ofMessage, _, rfl⟩ := inferred
    exact ih List.mem_cons_self ofMessage
  | binary =>
    obtain ⟨_, _, _, _, ofLeft, ofRight, _⟩ := of_infer_binary inferred
    exact (ih List.mem_cons_self ofLeft).trans (ih (List.mem_cons_of_mem _ List.mem_cons_self) ofRight)
  | array =>
    simp only [infer, bind_eq_ok, pure_eq_ok] at inferred
    obtain ⟨_, _, ofElements, _, rfl⟩ := inferred
    exact (of_inferEach (fun member same ofNode => same.trans (ih member ofNode)) (fun _ member => member) rfl ofElements).1
  | object =>
    simp only [infer, bind_eq_ok, pure_eq_ok] at inferred
    obtain ⟨_, _, ofProperties, _, rfl⟩ := inferred
    exact (of_inferProperties (fun member same ofNode => same.trans (ih member ofNode))
      (fun _ member => List.mem_map_of_mem member) rfl ofProperties).1
  | property =>
    obtain ⟨_, ofTarget, _⟩ := of_infer_property inferred
    exact ih List.mem_cons_self ofTarget
  | block => exact (inside_eq_ok.mp inferred).1
  | branch =>
    obtain ⟨_, _, ofCondition, _, _, ofElse, _⟩ := of_infer_branch inferred
    exact (ih List.mem_cons_self ofCondition).trans (of_inferOptional ofElse).1
  | select =>
    obtain ⟨_, _, _, ofExpression, ofCases, ofOtherwise, _⟩ := of_infer_select inferred
    have cases := of_inferCases (fun entry member _ _ =>
      ih (List.mem_cons_of_mem _ (List.mem_map_of_mem member))) ofCases
    exact (ih List.mem_cons_self ofExpression).trans (cases.1.trans (of_inferOptional ofOtherwise).1)
  | whileLoop => exact (of_infer_while inferred).1
  | doWhile => exact (of_infer_doWhile inferred).1
  | forLoop => exact (of_infer_for inferred).1
  | forEach =>
    obtain ⟨_, _, ofIterable, _⟩ := of_infer_forEach inferred
    exact ih List.mem_cons_self ofIterable
  | tryCatch => exact (of_infer_tryCatch inferred).1
  | declare => cases noDeclaration
  | _ => cases core.here .ofFunction
termination_by sizeOf node

/-- A core node changes nothing but the innermost scope, and that only where it may declare. -/
theorem Node.infer_tail_eq {node : Node} {mayDeclare : Bool} (core : node.IsCore mayDeclare)
    (inferred : node.infer scope = (.ok type, after)) :
    scope.tail = after.tail ∧ (mayDeclare = false → scope = after) := by
  by_cases declares : node.isDeclaration = true
  · cases node with
    | declare kind name initial =>
      obtain ⟨_, middle, _, _, ofInitial, _, _, rfl⟩ := of_infer_declare inferred
      obtain rfl := infer_scope_eq (core.operands _ List.mem_cons_self) ofInitial
      refine ⟨?_, fun plain => ?_⟩
      · cases scope <;> rfl
      · cases plain ▸ core.place
    | _ => cases declares
  · obtain rfl := infer_scope_eq ⟨by simpa using declares, core.text⟩ inferred
    exact ⟨rfl, fun _ => rfl⟩

/-- A core node that leaves the scope as it is has a type in it. -/
abbrev Node.HasType (scope : TypeScope) (node : Node) (type : Ty) : Prop :=
  node.IsCore false ∧ node.infer scope = (.ok type, scope)

theorem Node.IsCore.keeps_scope {node : Node} {first : TypeScope} (core : node.IsCore false) (same : first = scope)
    (inferred : node.infer scope = (.ok type, after)) : first = after := same.trans (infer_scope_eq core inferred)

theorem Node.HasType.of_place {node : Node} (place : node.IsCore false ∧ ∃ other after, scope = other ∧
    node.infer other = (.ok type, after)) : node.HasType scope type := by
  obtain ⟨core, _, _, rfl, inferred⟩ := place
  exact ⟨core, infer_scope_eq core inferred ▸ inferred⟩

/-- A core node in a place where no declaration may stand has the type that is inferred. -/
theorem Node.hasType_of_infer {node : Node} (core : node.IsCore false)
    (inferred : node.infer scope = (.ok type, after)) : node.HasType scope type ∧ scope = after := by
  obtain rfl := infer_scope_eq core inferred
  exact ⟨⟨core, inferred⟩, rfl⟩

end TreeScript
