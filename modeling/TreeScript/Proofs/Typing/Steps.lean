import TreeScript.Operator.Infer
import TreeScript.Proofs.Conduct.Values
import TreeScript.Proofs.Typing.Core

/-! # Steps that keep to the types of a scope

A step in a frame starts from a store that fits the scope of types there. It adds arrays and objects
but changes none, leaves a store that fits again, and stops only for the reasons that inference does
not exclude, also where a handler receives the failure. A step that gives a result may have extended the
scope by a declaration; a step that stopped has not.
-/

namespace TreeScript

/-- The failures that inference does not exclude: properties of null or undefined, errors raised by
the program, signals astray, and operands that their types do not tell to be incomparable. -/
def Failure.isExpected : Failure → Bool
  | nullAccess _ | script _ | straySignal _ _ => true
  | badOperands (.notComparable operator _ _) =>
    [.less, .lessEqual, .greater, .greaterEqual].contains operator
  | badOperands (.notJoinable _ _) => true
  | _ => false

/-- The reasons to stop that inference does not exclude; its signals are those of loops and its faults
those of numbers. -/
def Stop.isExpected : Stop → Bool
  | failure cause => cause.isExpected
  | signal (.returned _) => false
  | signal _ => true
  | fault (.arithmetic _) | fault (.invalidInteger _) => true
  | fault _ => false

/-- The stops of the core language, in whatever store. -/
abbrev Stop.Expected (reason : Stop) (_ : Store) : Prop := reason.isExpected = true

variable {α β : Type} {host : Host} {store later : Store} {scope after : TypeScope}
  {chain : List FrameRef} {stops : Stop → Store → Prop}

namespace Store

/-- The store is extended by steps that stop for certain reasons only: the failures that handlers have received
on the way are among these. -/
structure Continues (store : Store) (stops : Stop → Store → Prop) (later : Store) : Prop
    extends store.Extends later where
  caught : ∀ cause ∈ later.caught, cause ∈ store.caught ∨ ∃ there, stops (.failure cause) there

namespace Continues

theorem refl (store : Store) : store.Continues stops store := ⟨.refl store, fun _ => .inl⟩

theorem trans {last : Store} (first : store.Continues stops later) (second : later.Continues stops last) :
    store.Continues stops last :=
  ⟨first.toExtends.trans second.toExtends, fun cause member =>
    (second.caught cause member).elim (first.caught cause) .inr⟩

theorem allow {others : Stop → Store → Prop} (grown : store.Continues stops later)
    (weaker : ∀ reason later, stops reason later → others reason later) : store.Continues others later :=
  ⟨grown.toExtends, fun cause member =>
    (grown.caught cause member).imp id fun ⟨there, may⟩ => ⟨there, weaker _ _ may⟩⟩

end Continues

/-- The end of a step that leads from one scope of types to another. Unless told otherwise, it stops for
expected reasons only. -/
def leading (store : Store) (scope after : TypeScope) (chain : List FrameRef)
    (holds : α → Store → Prop) (stops : Stop → Store → Prop := Stop.Expected) : Ending α where
  done result later := store.Continues stops later ∧ later.Fits after chain ∧ holds result later
  stopped reason later := stops reason later ∧ store.Continues stops later ∧ later.Fits scope chain
  unfinished := store.Continues stops

/-- The end of a step that stays in its scope of types. -/
abbrev staying (store : Store) (scope : TypeScope) (chain : List FrameRef)
    (holds : α → Store → Prop) (stops : Stop → Store → Prop := Stop.Expected) : Ending α :=
  store.leading scope scope chain holds stops

/-- Keep to the types of a scope, without binding names, making functions or changing cells. -/
def typing (store : Store) (scope : TypeScope) (chain : List FrameRef) : Conduct where
  holds later := store.Continues Stop.Expected later ∧ later.Fits scope chain
  writable _ := False
  makes _ := False
  allows reason := reason.isExpected = true

theorem Extends.record (store : Store) (event : Event) : store.Extends (store.record event) :=
  ⟨fun _ _ found => found, fun _ _ found => found⟩

theorem Continues.record (store : Store) (event : Event)
    (may : ∀ cause, event = .caught cause → stops (.failure cause) store) :
    store.Continues stops (store.record event) := by
  refine ⟨.record store event, forall_caught_push (fun _ => .inl) fun cause found => .inr ⟨store, ?_⟩⟩
  cases event with
  | caught => exact may cause (by rw [Option.some.inj found])
  | _ => cases found

theorem Fits.record (fits : store.Fits scope chain) (event : Event) :
    (store.record event).Fits scope chain := fits.extend (.record store event) rfl

theorem typing_numeric : (store.typing scope chain).Numeric := ⟨fun _ => rfl, fun _ => rfl⟩

end Store

namespace Outcome.Meets

variable {outcome : Outcome α} {holds : α → Store → Prop}

/-- A step that starts later ends as one that started earlier. -/
theorem from_earlier (meets : outcome.Meets (later.leading scope after chain holds stops))
    (grown : store.Continues stops later) : outcome.Meets (store.leading scope after chain holds stops) :=
  meets.mono (fun _ _ ends => ⟨grown.trans ends.1, ends.2⟩)
    (fun _ _ ends => ⟨ends.1, grown.trans ends.2.1, ends.2.2⟩) fun _ => grown.trans

theorem weaken {goal : α → Store → Prop}
    (meets : outcome.Meets (store.leading scope after chain holds stops))
    (implies : ∀ result later, later.Fits after chain → holds result later → goal result later) :
    outcome.Meets (store.leading scope after chain goal stops) :=
  meets.mono (fun _ _ ends => ⟨ends.1, ends.2.1, implies _ _ ends.2.1 ends.2.2⟩)
    (fun _ _ ends => ends) fun _ ends => ends

end Outcome.Meets

namespace Exec

variable {holds : α → Store → Prop} {goal : β → Store → Prop}

theorem staying_pure {result : α} (fits : store.Fits scope chain) (known : holds result store) :
    ((pure result : Exec α) host store).Meets (store.staying scope chain holds stops) :=
  ⟨.refl store, fits, known⟩

theorem record_bind (event : Event) (next : Unit → Exec β) :
    (record event >>= next) host store = next () host (store.record event) := rfl

theorem staying_stop {reason : Stop} (fits : store.Fits scope chain) (may : stops reason store) :
    ((stop reason : Exec α) host store).Meets (store.staying scope chain holds stops) :=
  ⟨may, .refl store, fits⟩

theorem read_bind (view : Store → α) (next : α → Exec β) :
    (read view >>= next) host store = next (view store) host store := rfl

/-- The second step starts where the first one has led. -/
theorem leading_bind {step : Exec α} {next : α → Exec β}
    (first : (step host store).Meets (store.staying scope chain holds stops))
    (rest : ∀ result later, store.Extends later → later.Fits scope chain → holds result later →
      (next result host later).Meets (later.leading scope after chain goal stops)) :
    ((step >>= next) host store).Meets (store.leading scope after chain goal stops) := by
  rw [meets_bind]
  refine first.mono (fun result later ends => ?_) (fun _ _ ends => ends) fun _ ends => ends
  exact (rest result later ends.1.toExtends ends.2.1 ends.2.2).from_earlier ends.1

/-- A step that follows the conduct of a scope stays in it. -/
theorem Follows.staying {step : Exec α} (follows : step.Follows (store.typing scope chain))
    (fits : store.Fits scope chain) :
    (step host store).Meets (store.staying scope chain fun _ _ => True) :=
  (follows.meets host store ⟨.refl store, fits⟩).mono (fun _ _ ends => ⟨ends.1, ends.2, trivial⟩)
    (fun _ _ ends => ends) fun _ ends => ends.1

theorem staying_ofArithmetic {answer : Except ArithmeticFault α} (fits : store.Fits scope chain) :
    (ofArithmetic answer host store).Meets (store.staying scope chain fun _ _ => True) :=
  (follows_ofArithmetic Store.typing_numeric.arithmetic).staying fits

theorem staying_textOf (value : Value) (fits : store.Fits scope chain) :
    (textOf value host store).Meets (store.staying scope chain fun _ _ => True) :=
  (follows_spell rfl).staying fits

theorem staying_newArray {element : Ty} {elements : Array Value} (fits : store.Fits scope chain)
    (typed : ∀ value ∈ elements, store.HasType element value) :
    (newArray elements host store).Meets
      (store.staying scope chain fun value later => later.HasType (.array element) value) := by
  have grown := Store.Extends.addArray store elements
  have found : (store.addArray elements).2.arrays[store.arrays.size]? = some elements := by
    simp [Store.addArray]
  refine ⟨⟨grown, fun _ => .inl⟩, fits.extend grown rfl, .array found fun value member => ?_⟩
  exact (typed value member).extend grown

theorem staying_newObject {types : List (String × Ty)} {entries : List (String × Value)}
    (fits : store.Fits scope chain)
    (typed : List.Forall₂ store.EntryHasType types entries) :
    (newObject (Table.ofList entries) host store).Meets (store.staying scope chain
      (fun value later => later.HasType (.ofProperties types) value) stops) := by
  have grown := Store.Extends.addObject store (Table.ofList entries)
  have found : (store.addObject (Table.ofList entries)).2.objects[store.objects.size]? =
      some (Table.ofList entries) := by
    simp [Store.addObject]
  refine ⟨⟨grown, fun _ => .inl⟩, fits.extend grown rfl, .ofProperties found ?_⟩
  exact typed.imp fun _ _ related => ⟨related.1, related.2.extend grown⟩

/-- A step for each item gives what is known of each result, at the end of all of them. -/
theorem staying_each {ι τ : Type} {relates : ι → τ → Prop} (gives : Store → τ → β → Prop)
    {step : ι → Exec β} {items : List ι} {types : List τ}
    (stable : ∀ store later type result, store.Extends later → gives store type result →
      gives later type result)
    (steps : ∀ item type, relates item type → ∀ store, store.Fits scope chain →
      (step item host store).Meets (store.staying scope chain fun result later =>
        gives later type result))
    (related : List.Forall₂ relates items types) (fits : store.Fits scope chain) :
    (each step items host store).Meets
      (store.staying scope chain fun results later => List.Forall₂ (gives later) types results) := by
  induction related generalizing store with
  | nil => exact staying_pure fits .nil
  | cons ofItem _ ih =>
    refine leading_bind (steps _ _ ofItem store fits) fun result later grown fits known => ?_
    refine leading_bind (ih fits) fun results last grown fits rest => ?_
    exact staying_pure fits (.cons (stable _ _ _ _ grown known) rest)

/-- What every round of a loop keeps, the loop keeps. -/
theorem staying_repeatRounds {round : β → Exec (Round β)}
    (rounds : ∀ state later, store.Extends later → later.Fits scope chain →
      (round state host later).Meets (later.staying scope chain (fun _ _ => True) stops))
    (effort : Nat) (state : β) (fits : store.Fits scope chain) :
    (repeatRounds round effort state host store).Meets
      (store.staying scope chain (fun _ _ => True) stops) := by
  induction effort generalizing state store with
  | zero => exact .refl store
  | succ effort ih =>
    rw [repeatRounds_succ]
    refine leading_bind (rounds state store (.refl store) fits) fun result later grown fits _ => ?_
    cases result with
    | again next => exact ih (fun state last more => rounds state last (grown.trans more)) next fits
    | finished last => exact staying_pure fits trivial

end Exec

/-- A loop takes jumps that its body makes, and the store fits after them too. -/
theorem staying_absorbJumps {body : Exec Value} {holds : Value → Store → Prop}
    (ends : (body host store).Meets (store.staying scope chain holds stops)) (last : Value) :
    (absorbJumps last body host store).Meets (store.staying scope chain (fun _ _ => True) stops) := by
  rw [Exec.absorbJumps_eq_settle, Exec.meets_settle]
  refine ends.mono (fun _ _ ends => ⟨ends.1, ends.2.1, trivial⟩) ?_ fun _ ends => ends
  rintro reason later ⟨expected, grown, fits⟩
  dsimp only
  split
  · exact ⟨grown, fits, trivial⟩
  · exact ⟨grown, fits, trivial⟩
  · exact ⟨expected, grown, fits⟩

/-! ## Operators and properties -/

theorem Store.HasType.of_array {element : Ty} {value : Value}
    (typed : store.HasType (.array element) value) :
    ∃ ref, value = .array ref ∧ ∀ item ∈ store.elements ref, store.HasType element item := by
  cases typed with
  | @array _ ref elements found each =>
    refine ⟨ref, rfl, fun item member => ?_⟩
    rw [Store.elements, Array.getD_eq_getD_getElem?, found] at member
    exact each item member

namespace Operator

variable {operator : Operator} {leftType rightType type : Ty} {left right : Value}

theorem staying_applyArithmetic (fits : store.Fits scope chain) (left right : Number) :
    (operator.applyArithmetic (.number left) (.number right) host store).Meets
      (store.staying scope chain fun value later => later.HasType .number value) := by
  refine Exec.leading_bind (Exec.staying_ofArithmetic fits) fun result later _ fits _ => ?_
  exact Exec.staying_pure fits (.number result)

/-- Equality holds of any two values; only an order may not. -/
theorem staying_applyComparison (isComparison : operator.category = .comparison)
    (fits : store.Fits scope chain) (left right : Value) :
    (operator.applyComparison left right host store).Meets
      (store.staying scope chain fun value later => later.HasType .boolean value) := by
  unfold applyComparison
  split
  · exact Exec.staying_pure fits (.boolean _)
  · exact Exec.staying_pure fits (.boolean _)
  · exact Exec.staying_pure fits (.boolean _)
  · exact Exec.staying_pure fits (.boolean _)
  · next notEqual notNotEqual _ _ =>
    refine Exec.staying_stop fits ?_
    cases operator with
    | equal => exact absurd rfl notEqual
    | notEqual => exact absurd rfl notNotEqual
    | less | lessEqual | greater | greaterEqual => rfl
    | _ => cases isComparison

theorem staying_applyBoolean (fits : store.Fits scope chain) (left right : Bool) :
    (operator.applyBoolean (.bool left) (.bool right) host store).Meets
      (store.staying scope chain fun value later => later.HasType .boolean value) := by
  refine Exec.leading_bind (Exec.staying_ofArithmetic fits) fun leftHolds later _ fits _ => ?_
  split
  · refine Exec.leading_bind (Exec.staying_ofArithmetic fits) fun rightHolds last _ fits _ => ?_
    exact Exec.staying_pure fits (.boolean rightHolds)
  · exact Exec.staying_pure fits (.boolean leftHolds)

/-- Two arrays whose elements have one type are joined to an array of that type, unless the values
in them tell apart what their types do not. -/
theorem staying_join {element : Ty} {left right : ArrayRef} (fits : store.Fits scope chain)
    (leftTyped : ∀ value ∈ store.elements left, store.HasType element value)
    (rightTyped : ∀ value ∈ store.elements right, store.HasType element value) :
    (join left right host store).Meets
      (store.staying scope chain fun value later => later.HasType (.array element) value) := by
  unfold join
  rw [Exec.read_bind, Exec.read_bind]
  refine Exec.leading_bind ((follows_elementType _).staying fits) fun leftType first grown fits _ => ?_
  refine Exec.leading_bind ((follows_elementType _).staying fits) fun rightType last more fits _ => ?_
  split
  · refine Exec.staying_newArray fits fun value member => ?_
    rcases Array.mem_append.mp member with inLeft | inRight
    · exact (leftTyped value inLeft).extend (grown.trans more)
    · exact (rightTyped value inRight).extend (grown.trans more)
  · exact Exec.staying_stop fits rfl

/-- The operands that inference accepts for the operators of a category, and the type of the result. -/
inductive Infers : Category → Ty → Ty → Ty → Prop
  | arithmetic : Infers .arithmetic .number .number .number
  | comparison {left right : Ty} (equal : left.same right = true) : Infers .comparison left right .boolean
  | boolean : Infers .boolean .boolean .boolean .boolean
  | concat {left right : Ty} (equal : left.same right = true) :
      Infers .concat (.array left) (.array right) (.array left)
  | concatAny (left right : Ty) : Infers .concat (.array left) (.array right) (.array .any)
  | textConcat (left right : Ty) : Infers .textConcat left right .string

theorem infers_of_infer (inferred : operator.infer leftType rightType = .ok type) :
    Infers operator.category leftType rightType type := by
  unfold infer at inferred
  cases category : operator.category with
  | arithmetic | boolean =>
    simp only [category] at inferred
    split at inferred
    · next both =>
      cases inferred
      rw [Bool.and_eq_true] at both
      obtain rfl := Ty.eq_prim_of_same both.1
      obtain rfl := Ty.eq_prim_of_same both.2
      constructor
    · cases inferred
  | comparison =>
    simp only [category] at inferred
    split at inferred
    · next equal =>
      cases inferred
      exact .comparison equal
    · cases inferred
  | concat =>
    simp only [category] at inferred
    split at inferred
    · next leftElement rightElement =>
      split at inferred
      · next equal =>
        cases inferred
        exact .concat equal
      · split at inferred
        · cases inferred
          exact .concatAny leftElement rightElement
        · cases inferred
    · cases inferred
  | textConcat =>
    simp only [category] at inferred
    cases inferred
    exact .textConcat leftType rightType

/-- An operator that inference accepts gives a value of the type that inference tells. -/
theorem staying_apply (inferred : operator.infer leftType rightType = .ok type)
    (fits : store.Fits scope chain) (leftTyped : store.HasType leftType left)
    (rightTyped : store.HasType rightType right) :
    (operator.apply left right host store).Meets
      (store.staying scope chain fun value later => later.HasType type value) := by
  have accepted := infers_of_infer inferred
  unfold apply
  generalize category : operator.category = kind at accepted ⊢
  cases accepted with
  | arithmetic =>
    cases leftTyped
    cases rightTyped
    exact staying_applyArithmetic fits _ _
  | comparison => exact staying_applyComparison category fits left right
  | boolean =>
    cases leftTyped
    cases rightTyped
    exact staying_applyBoolean fits _ _
  | concat equal =>
    obtain ⟨leftRef, rfl, leftElements⟩ := leftTyped.of_array
    obtain ⟨rightRef, rfl, rightElements⟩ := rightTyped.of_array
    exact staying_join fits leftElements fun value member => (rightElements value member).of_same equal
  | concatAny =>
    obtain ⟨leftRef, rfl, _⟩ := leftTyped.of_array
    obtain ⟨rightRef, rfl, _⟩ := rightTyped.of_array
    exact staying_join fits (fun value _ => .any value) fun value _ => .any value
  | textConcat =>
    refine Exec.leading_bind (Exec.staying_textOf left fits) fun leftText later _ fits _ => ?_
    refine Exec.leading_bind (Exec.staying_textOf right fits) fun rightText last _ fits _ => ?_
    exact Exec.staying_pure fits (.string _)

end Operator

/-- A property has the type that the type of its target tells, and any type if that tells none. -/
theorem staying_readProperty {properties : List (String × Ty)} {target : Value} {name : String}
    (fits : store.Fits scope chain) (typed : store.HasType (.object properties) target) :
    (readProperty target (.string name) host store).Meets (store.staying scope chain
      fun value later => later.HasType ((Ty.property? properties name).getD .any) value) := by
  cases typed with
  | @object _ ref entries found each =>
    have atRef : store.entries ref = entries := by
      rw [Store.entries, Array.getD_eq_getD_getElem?, found]
      rfl
    refine ⟨.refl store, fits, ?_⟩
    change store.HasType _ (((store.entries ref).get? name).getD .undefined)
    rw [atRef]
    cases known : Ty.property? properties name with
    | none => exact .any _
    | some type => exact each name type known

end TreeScript
