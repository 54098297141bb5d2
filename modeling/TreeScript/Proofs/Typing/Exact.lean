import TreeScript.Proofs.Typing.Steps
import TreeScript.Proofs.Typing.ValueTypes

/-! # Inference that is exact

Formulas are expressions of literals, arrays, objects and operators that join no arrays. They look at no
name and change no cell, so a formula that inference accepts comes to an end. It has a value, and the
type of the value is the one that was inferred, not just one that the value can be given. It has no value
only where a number is too large, where an integer is too long to be joined to a text, or where an order is
asked of values whose type, though one and the same, has none.
-/

namespace TreeScript

namespace Node

/-- Whether a node belongs in a formula. -/
def isFormulaPart (_ : Site) : Node → Bool
  | literal _ | array _ | object _ => true
  | binary token _ _ => Operator.ofToken? token != some .concat
  | _ => false

/-- Whether a node is made of literals, arrays, objects and operators that join no arrays. -/
def isFormula (node : Node) : Bool := node.everywhere isFormulaPart .ofFunction

/-- Texts are joined somewhere in a node, and the value of one of them has an integer that the host cannot write. -/
inductive JoinsLong (host : Host) (frame : FrameRef) : Node → Prop
  | here {token : String} {left right operand : Node} {effort : Nat} {value : Value} {before store later : Store}
      (joins : Operator.ofToken? token = some .textConcat) (member : operand ∈ [left, right])
      (gives : operand.exec effort frame host before = .done value store) (grown : store.Extends later)
      (long : (later.integers false value).all host.writes = false) : JoinsLong host frame (binary token left right)
  | part {node part : Node} (member : (Site.ofFunction, part) ∈ node.parts .ofFunction)
      (inside : JoinsLong host frame part) : JoinsLong host frame node

end Node

/-- The reasons for which a formula stops: a number that is too large, an integer that is too long where texts
are joined, and an order of values of one type that has none. -/
inductive Stop.Unforeseen (host : Host) (joins : Prop) (store : Store) : Stop → Prop
  | overflow (cause : ArithmeticFault) : Unforeseen host joins store (.fault (.arithmetic cause))
  | long (texts : joins) : Unforeseen host joins store (.fault (host.tooLong none))
  | unordered {operator : Operator} {left right : Value} {type : Ty}
      (ordering : operator ∈ [.less, .lessEqual, .greater, .greaterEqual])
      (ofLeft : store.type? left = some type) (ofRight : store.type? right = some type)
      (notNumber : type ≠ .number) (notString : type ≠ .string) :
      Unforeseen host joins store (.failure (.badOperands (.notComparable operator left right)))

variable {α β : Type} {host : Host} {joins : Prop} {store later : Store}

/-- The end of a step that adds cells only, and stops for no other reasons than formulas do. -/
def Store.telling (store : Store) (host : Host) (joins : Prop) (holds : α → Store → Prop) : Ending α where
  done result later := store.Extends later ∧ holds result later
  stopped reason later := reason.Unforeseen host joins later
  unfinished _ := False

/-- A step may be one of those of a larger formula, and its result is what it gives. -/
theorem Outcome.Meets.joining {outcome : Outcome α} {holds : α → Store → Prop} {more : Prop}
    (meets : outcome.Meets (store.telling host joins holds)) (within : joins → more) :
    outcome.Meets (store.telling host more fun result later => holds result later ∧ outcome = .done result later) := by
  cases outcome with
  | done => exact ⟨meets.1, meets.2, rfl⟩
  | stopped reason later =>
    cases (meets : reason.Unforeseen host joins later) with
    | overflow cause => exact Stop.Unforeseen.overflow cause
    | long texts => exact Stop.Unforeseen.long (within texts)
    | unordered ordering ofLeft ofRight notNumber notString =>
      exact Stop.Unforeseen.unordered ordering ofLeft ofRight notNumber notString
  | unfinished => exact meets

/-! ## Steps -/

namespace Exec

variable {holds : α → Store → Prop} {goal : β → Store → Prop}

theorem telling_pure {result : α} (known : holds result store) :
    ((pure result : Exec α) host store).Meets (store.telling host joins holds) := ⟨.refl store, known⟩

theorem telling_bind {step : Exec α} {next : α → Exec β} (first : (step host store).Meets (store.telling host joins holds))
    (rest : ∀ result later, store.Extends later → holds result later →
      (next result host later).Meets (later.telling host joins goal)) :
    ((step >>= next) host store).Meets (store.telling host joins goal) := by
  rw [meets_bind]
  refine first.mono (fun result later ends => ?_) (fun _ _ reason => reason) (fun _ never => never)
  exact (rest result later ends.1 ends.2).mono (fun _ _ last => ⟨ends.1.trans last.1, last.2⟩)
    (fun _ _ reason => reason) (fun _ never => never)

/-- A step for each item tells what is known of each result, at the end of all of them. -/
theorem telling_each {ι τ : Type} {relates : ι → τ → Prop} (gives : Store → β → τ → Prop) {step : ι → Exec β}
    {items : List ι} {types : List τ}
    (stable : ∀ {store later result type}, gives store result type → store.Extends later → gives later result type)
    (steps : ∀ item ∈ items, ∀ type, relates item type → ∀ store,
      (step item host store).Meets (store.telling host joins fun result later => gives later result type))
    (related : List.Forall₂ relates items types) :
    (each step items host store).Meets
      (store.telling host joins fun results later => List.Forall₂ (gives later) results types) := by
  induction related generalizing store with
  | nil => exact telling_pure .nil
  | cons ofItem _ ih =>
    obtain ⟨first, others⟩ := List.forall_mem_cons.mp steps
    refine telling_bind (first _ ofItem store) fun result later _ known => ?_
    refine telling_bind (ih others) fun results last grown rest => ?_
    exact telling_pure (.cons (stable known grown) rest)

theorem telling_ofArithmetic (answer : Except ArithmeticFault α) :
    (ofArithmetic answer host store).Meets (store.telling host joins fun _ _ => True) := by
  cases answer with
  | ok result => exact ⟨.refl store, trivial⟩
  | error cause => exact .overflow cause

/-- A value with a type has a text, if its integers can be written. -/
theorem telling_textOf {value : Value} {type : Ty} (told : store.type? value = some type)
    (texts : (store.integers false value).all host.writes = false → joins) :
    (textOf value host store).Meets (store.telling host joins fun _ _ => True) := by
  cases found : store.text? value with
  | some text =>
    simp only [textOf, spell, found]
    split
    · exact ⟨.refl store, trivial⟩
    · next long => exact Stop.Unforeseen.long (texts (Bool.eq_false_of_not_eq_true long))
  | none =>
    rw [Store.type?, Store.picture?_eq_none_of_text? found] at told
    cases told

end Exec

/-! ## Operators -/

def Literal.type : Literal → Ty
  | undefined => .undefined
  | null => .null
  | bool _ => .boolean
  | number _ => .number
  | string _ => .string
  | bigint _ => .bigint
  | symbol _ => .symbol

theorem Literal.tells (literal : Literal) : store.Tells literal.toValue literal.type := by
  intro later _
  cases literal <;> simp only [toValue, Store.type?, Store.picture?, Store.pictureWithin, Option.map_some] <;> rfl

namespace Operator

variable {operator : Operator} {leftType rightType type : Ty} {left right : Value}

theorem telling_applyArithmetic (left right : Number) :
    (operator.applyArithmetic (.number left) (.number right) host store).Meets
      (store.telling host joins fun value later => later.Tells value .number) := by
  refine Exec.telling_bind (Exec.telling_ofArithmetic _) fun result later _ _ => ?_
  exact Exec.telling_pure (Literal.number result).tells

/-- Values of one type are compared, unless an order is asked that they do not have. -/
theorem telling_applyComparison (isComparison : operator.category = .comparison)
    (ofLeft : store.type? left = some type) (ofRight : store.type? right = some type) :
    (operator.applyComparison left right host store).Meets
      (store.telling host joins fun value later => later.Tells value .boolean) := by
  have truth (value : Bool) : ((pure (.bool value) : Exec Value) host store).Meets
      (store.telling host joins fun value later => later.Tells value .boolean) := Exec.telling_pure (Literal.bool value).tells
  unfold applyComparison
  split
  · exact truth _
  · exact truth _
  · exact truth _
  · exact truth _
  · next notEqual notNotEqual notNumbers notStrings =>
    refine Stop.Unforeseen.unordered ?_ ofLeft ofRight ?_ ?_
    · cases operator with
      | equal => exact absurd rfl notEqual
      | notEqual => exact absurd rfl notNotEqual
      | less | lessEqual | greater | greaterEqual => decide
      | _ => cases isComparison
    · rintro rfl
      cases Store.HasType.of_type? ofLeft
      cases Store.HasType.of_type? ofRight
      exact notNumbers _ _ rfl rfl
    · rintro rfl
      cases Store.HasType.of_type? ofLeft
      cases Store.HasType.of_type? ofRight
      exact notStrings _ _ rfl rfl

theorem telling_applyBoolean (left right : Bool) :
    (operator.applyBoolean (.bool left) (.bool right) host store).Meets
      (store.telling host joins fun value later => later.Tells value .boolean) := by
  refine Exec.telling_bind (Exec.telling_ofArithmetic _) fun leftHolds later _ _ => ?_
  split
  · refine Exec.telling_bind (Exec.telling_ofArithmetic _) fun rightHolds last _ _ => ?_
    exact Exec.telling_pure (Literal.bool rightHolds).tells
  · exact Exec.telling_pure (Literal.bool leftHolds).tells

/-- An operator that inference accepts gives a value of just the type that is inferred. -/
theorem telling_apply (inferred : operator.infer leftType rightType = .ok type) (notConcat : operator ≠ .concat)
    (texts : operator = .textConcat → ∀ value ∈ [left, right], ∀ later, store.Extends later →
      (later.integers false value).all host.writes = false → joins)
    (leftTells : store.Tells left leftType) (rightTells : store.Tells right rightType) :
    (operator.apply left right host store).Meets (store.telling host joins fun value later => later.Tells value type) := by
  have accepted := infers_of_infer inferred
  unfold apply
  generalize category : operator.category = kind at accepted ⊢
  cases accepted with
  | arithmetic =>
    cases Store.HasType.of_type? leftTells.type?
    cases Store.HasType.of_type? rightTells.type?
    exact telling_applyArithmetic _ _
  | comparison equal =>
    have same := ((Store.isCanonical_type? leftTells.type?).same_iff
      (Store.isCanonical_type? rightTells.type?)).mp equal
    exact telling_applyComparison category leftTells.type? (same ▸ rightTells.type?)
  | boolean =>
    cases Store.HasType.of_type? leftTells.type?
    cases Store.HasType.of_type? rightTells.type?
    exact telling_applyBoolean _ _
  | concat | concatAny =>
    cases operator with
    | concat => exact absurd rfl notConcat
    | _ => cases category
  | textConcat =>
    have joined : operator = .textConcat := by cases operator <;> first | rfl | cases category
    refine Exec.telling_bind (Exec.telling_textOf leftTells.type? (texts joined left (by simp) store (.refl _)))
      fun leftText later grown _ => ?_
    refine Exec.telling_bind (Exec.telling_textOf (rightTells.extend grown).type? (texts joined right (by simp) later grown))
      fun rightText last _ _ => ?_
    exact Exec.telling_pure (Literal.string _).tells

end Operator

/-! ## Formulas -/

open Inference

variable {scope after : TypeScope}

/-- Formulas are no functions. -/
theorem Evaluator.argument_formula {ev : Evaluator} {frame : FrameRef} {node : Node} (formula : node.isFormula = true) :
    ev.argument frame node = ev.exec node frame := by
  have here := (Node.everywhere_iff.mp formula).1
  cases node with
  | function | arrow => cases here
  | _ => rfl

theorem Node.of_infer_literal {literal : Literal} {type : Ty}
    (inferred : (Node.literal literal).infer scope = (.ok type, after)) : type = literal.type := by
  cases literal <;> exact (pure_eq_ok.mp inferred).1.symm

/-- With an effort that is at least its size, a formula that inference accepts has a value of the type that is
inferred, unless it stops. -/
theorem Node.telling_exec {frame : FrameRef} {effort : Nat} {node : Node} (small : sizeOf node ≤ effort)
    (formula : node.isFormula = true) {type : Ty} (inferred : node.infer scope = (.ok type, after))
    (store : Store) :
    (node.exec effort frame host store).Meets
      (store.telling host (node.JoinsLong host frame) fun value later => later.Tells value type) := by
  -- By induction on the effort, not the node: the parts of an array stand in lists, and all are smaller.
  induction effort generalizing node scope after type store with
  | zero => cases node <;> simp at small
  | succ effort ih =>
    obtain ⟨here, parts⟩ := everywhere_iff.mp formula
    have part {part : Node} (member : (Site.ofFunction, part) ∈ node.parts .ofFunction) {scope after : TypeScope}
        {type : Ty} (inferred : part.infer scope = (.ok type, after)) (store : Store) :
        (part.exec effort frame host store).Meets
          (store.telling host (node.JoinsLong host frame) fun value later =>
            later.Tells value type ∧ part.exec effort frame host store = .done value later) := by
      have smaller := sizeOf_part_lt member
      exact (ih (by omega) (parts _ member) inferred store).joining (.part member)
    change ((evaluator effort).execNode effort node frame host store).Meets _
    cases node with
    | literal literal =>
      obtain rfl := of_infer_literal inferred
      exact Exec.telling_pure literal.tells
    | array elements =>
      simp only [infer, bind_eq_ok, pure_eq_ok] at inferred
      obtain ⟨types, _, ofElements, rfl, rfl⟩ := inferred
      refine Exec.telling_bind (Exec.telling_each Store.Tells Store.Tells.extend ?_
        (of_inferEach (fun (_ : True) (_ : True) _ => trivial) (fun _ _ => trivial) trivial ofElements).2)
        fun values later _ each => ⟨.addArray later _, Store.tells_addArray each⟩
      rintro element member type ⟨-, _, _, -, ofElement⟩ store
      exact (part (List.mem_map_of_mem member) ofElement store).mono (fun _ _ => .imp_right And.left)
        (fun _ _ => id) fun _ => id
    | object properties =>
      simp only [infer, bind_eq_ok, pure_eq_ok] at inferred
      obtain ⟨types, _, ofEntries, rfl, rfl⟩ := inferred
      -- a name that is given twice keeps its last value, and its last type
      refine Exec.telling_bind (Exec.telling_each
        (fun store (entry : String × Value) (property : String × Ty) =>
          entry.1 = property.1 ∧ store.Tells entry.2 property.2)
        (fun gives grown => ⟨gives.1, gives.2.extend grown⟩) ?_
        (of_inferProperties (fun (_ : True) (_ : True) _ => trivial) (fun _ _ => trivial) trivial ofEntries).2)
        fun entries later _ each => ⟨.addObject later _, ?_⟩
      · rintro ⟨name, node⟩ member ⟨_, type⟩ ⟨rfl, -, _, _, -, ofNode⟩ store
        have inside : (Site.ofFunction, node) ∈ (object properties).parts .ofFunction :=
          List.mem_map.mpr ⟨_, member, rfl⟩
        have known := part inside ofNode store
        rw [exec, ← Evaluator.argument_formula (parts _ inside)] at known
        exact Exec.telling_bind known fun value later _ tells => Exec.telling_pure ⟨rfl, tells.1⟩
      · rw [← Ty.ofProperties_ofList]
        exact Store.tells_addObject (Table.Paired.ofList each)
    | binary token left right =>
      obtain ⟨leftType, _, rightType, operator, leftInferred, rightInferred, found, result⟩ := of_infer_binary inferred
      refine Exec.telling_bind (part (by simp [Node.parts]) leftInferred store)
        fun leftValue middle _ ofLeft => ?_
      refine Exec.telling_bind (part (by simp [Node.parts]) rightInferred middle)
        fun rightValue later grown ofRight => ?_
      simp only [found]
      refine Operator.telling_apply result ?_ ?_ (ofLeft.1.extend grown) ofRight.1
      · rintro rfl
        simp [isFormulaPart, found] at here
      · rintro rfl value member last more long
        rcases List.mem_pair.mp member with rfl | rfl
        · exact .here found (by simp) ofLeft.2 (grown.trans more) long
        · exact .here found (by simp) ofRight.2 more long
    | _ => cases here

/-- Inference is exact on formulas: with enough effort, one that is accepted has a value whose type is the one
that is inferred, unless a number is too large, an integer in a value that is to be joined as text is too long for the host to write
it, or an order is asked of two values of one type that is neither number nor string. -/
theorem Node.exec_of_infer_formula {node : Node} (formula : node.isFormula = true) {type : Ty}
    (inferred : node.infer scope = (.ok type, after)) (frame : FrameRef) (host : Host) (store : Store) :
    ∃ enough, ∀ effort, enough ≤ effort →
      (∃ value later, node.exec effort frame host store = .done value later ∧ later.type? value = some type) ∨
      (∃ cause later, node.exec effort frame host store = .stopped (.fault (.arithmetic cause)) later) ∨
      (∃ later, node.exec effort frame host store = .stopped (.fault (host.tooLong none)) later ∧
        node.JoinsLong host frame) ∨
      ∃ operator left right operands later,
        node.exec effort frame host store =
            .stopped (.failure (.badOperands (.notComparable operator left right))) later ∧
          operator ∈ [Operator.less, .lessEqual, .greater, .greaterEqual] ∧
          later.type? left = some operands ∧ later.type? right = some operands ∧
          operands ≠ .number ∧ operands ≠ .string := by
  refine ⟨sizeOf node, fun effort enough => ?_⟩
  have meets : (node.exec effort frame host store).Meets
      (store.telling host (node.JoinsLong host frame) fun value later => later.Tells value type) :=
    telling_exec enough formula inferred store
  cases ends : node.exec effort frame host store with
  | done value later =>
    rw [ends] at meets
    exact .inl ⟨value, later, rfl, meets.2.type?⟩
  | stopped reason later =>
    rw [ends] at meets
    cases (meets : reason.Unforeseen host (node.JoinsLong host frame) later) with
    | overflow cause => exact .inr (.inl ⟨cause, later, rfl⟩)
    | long texts => exact .inr (.inr (.inl ⟨later, rfl, texts⟩))
    | unordered ordering ofLeft ofRight notNumber notString =>
      exact .inr (.inr (.inr ⟨_, _, _, _, later, rfl, ordering, ofLeft, ofRight, notNumber, notString⟩))
  | unfinished later =>
    rw [ends] at meets
    exact meets.elim

/-- The last value under a name is the one that counts, also for the type. -/
theorem Node.exec_of_infer_formula_repeated :
    let one : Node := .literal (.number (.int 1))
    let node : Node := .object [("sum", .binary "+" one one), ("mixed", .array [one, .literal .null]),
      ("sum", .binary "><" (.literal (.string "one")) (.array []))]
    let type : Ty := .object [("mixed", .array .any), ("sum", .string)]
    node.isFormula = true ∧ node.infer .initial = (.ok type, .initial) ∧
      ∃ effort value later, node.exec effort Store.root default .initial = .done value later ∧
        later.type? value = some type := by
  intro one node type
  have formula : node.isFormula = true := by decide +kernel
  have inferred : node.infer .initial = (.ok type, .initial) := rfl
  refine ⟨formula, inferred, ?_⟩
  obtain ⟨enough, ends⟩ := exec_of_infer_formula formula inferred Store.root default .initial
  have finished : (node.exec (enough + 9) Store.root default .initial).isDone (fun _ _ => true) = true := rfl
  rcases ends (enough + 9) (Nat.le_add_right ..) with known | ⟨_, _, stopped⟩ | ⟨_, stopped, _⟩ | ⟨_, _, _, _, _, stopped, _⟩
  · exact ⟨_, known⟩
  all_goals
    rw [stopped] at finished
    cases finished

/-- An integer of more digits than the host allows cannot be joined to a text, though inference accepts it. -/
theorem Node.exec_fails_on_long :
    let node : Node := .binary "><" (.binary "^" (.literal (.number (.int 10))) (.literal (.number (.int 5000))))
      (.literal (.string ""))
    node.isFormula = true ∧ node.infer .initial = (.ok .string, .initial) ∧
      (node.exec 3 Store.root default .initial).stoppedTooLong 4300 = true := by
  refine ⟨by decide +kernel, rfl, by decide +kernel⟩

end TreeScript
