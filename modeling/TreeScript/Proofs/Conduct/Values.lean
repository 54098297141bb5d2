import TreeScript.Proofs.Conduct

/-! # Conduct of operators, properties and built-ins

None of them binds a name, makes a function or jumps. They create arrays and objects, change arrays
in place, print, and ask the outside world; when they stop it is by a fault, or by a failure that is
neither about a stray signal nor about an unbound name. So they follow every sturdy conduct that
allows these reasons.
-/

namespace TreeScript

/-- The failures of signals that no construct took. -/
def Failure.isStray : Failure → Bool
  | straySignal _ _ => true
  | _ => false

/-- The conduct allows every fault and, stray signals apart, every failure. -/
structure Conduct.Permissive (conduct : Conduct) : Prop where
  failure : ∀ {cause : Failure}, cause.isStray = false → conduct.allows (.failure cause)
  fault : ∀ {cause : Fault}, conduct.allows (.fault cause)

/-- The failures other than those of stray signals and of names that are not bound. -/
def Failure.isOrdinary : Failure → Bool
  | straySignal _ _ | unboundVariable _ | unboundType _ => false
  | _ => true

/-- The conduct allows every fault and every ordinary failure. -/
structure Conduct.Tolerant (conduct : Conduct) : Prop where
  failure : ∀ {cause : Failure}, cause.isOrdinary = true → conduct.allows (.failure cause)
  fault : ∀ {cause : Fault}, conduct.allows (.fault cause)

/-- The faults of numbers, numerals and arrays that are too large. -/
def Fault.isExcess : Fault → Bool
  | arithmetic _ | gapTooLarge | outOfMemory | invalidInteger (.tooLong _ _) => true
  | _ => false

/-- The conduct allows the faults of what is too large and every ordinary failure. -/
structure Conduct.Operating (conduct : Conduct) : Prop where
  failure : ∀ {cause : Failure}, cause.isOrdinary = true → conduct.allows (.failure cause)
  fault : ∀ {cause : Fault}, cause.isExcess = true → conduct.allows (.fault cause)

/-- The conduct allows the faults of arithmetic and of numerals. -/
structure Conduct.Numeric (conduct : Conduct) : Prop where
  arithmetic : ∀ fault, conduct.allows (.fault (.arithmetic fault))
  numeral : ∀ cause, conduct.allows (.fault (.invalidInteger cause))

variable {conduct : Conduct}

theorem Conduct.Permissive.tolerant (permissive : conduct.Permissive) : conduct.Tolerant where
  failure {cause} ordinary := permissive.failure (by cases cause <;> first | rfl | cases ordinary)
  fault := permissive.fault

theorem Conduct.Tolerant.operating (tolerant : conduct.Tolerant) : conduct.Operating :=
  ⟨tolerant.failure, fun _ => tolerant.fault⟩

theorem Conduct.Permissive.numeric (permissive : conduct.Permissive) : conduct.Numeric :=
  ⟨fun _ => permissive.fault, fun _ => permissive.fault⟩

namespace Operator

theorem follows_elementType (elements : Array Value) : (elementType elements).Follows conduct :=
  (Exec.follows_each fun value _ => Exec.follows_typeOf value).bind fun _ => Exec.follows_pure _

theorem follows_join (sturdy : conduct.Sturdy) (operating : conduct.Operating)
    (left right : ArrayRef) : (join left right).Follows conduct := by
  refine (Exec.follows_read _).bind fun leftElements => ?_
  refine (Exec.follows_read _).bind fun rightElements => ?_
  refine (follows_elementType _).bind fun leftType => ?_
  refine (follows_elementType _).bind fun rightType => ?_
  split
  · exact Exec.follows_newArray sturdy _
  · exact Exec.follows_fail (operating.failure rfl)

theorem follows_applyArithmetic (operating : conduct.Operating) (operator : Operator)
    (left right : Value) : (operator.applyArithmetic left right).Follows conduct := by
  unfold applyArithmetic
  split
  · exact (Exec.follows_ofArithmetic fun _ => operating.fault rfl).bind fun _ => Exec.follows_pure _
  · split
    · exact Exec.follows_pure _
    · exact Exec.follows_fail (operating.failure rfl)
  · exact Exec.follows_fail (operating.failure rfl)

theorem follows_applyComparison (operating : conduct.Operating) (operator : Operator)
    (left right : Value) : (operator.applyComparison left right).Follows conduct := by
  unfold applyComparison
  split
  · exact Exec.follows_pure _
  · exact Exec.follows_pure _
  · exact Exec.follows_pure _
  · exact Exec.follows_pure _
  · exact Exec.follows_fail (operating.failure rfl)

theorem follows_applyBoolean (operating : conduct.Operating) (operator : Operator)
    (left right : Value) : (operator.applyBoolean left right).Follows conduct := by
  refine (Exec.follows_ofArithmetic fun _ => operating.fault rfl).bind fun leftHolds => ?_
  split
  · exact (Exec.follows_ofArithmetic fun _ => operating.fault rfl).bind fun _ => Exec.follows_pure _
  · exact Exec.follows_pure _

theorem follows_apply (sturdy : conduct.Sturdy) (operating : conduct.Operating)
    (operator : Operator) (left right : Value) : (operator.apply left right).Follows conduct := by
  unfold apply
  cases operator.category with
  | arithmetic => exact follows_applyArithmetic operating operator left right
  | comparison => exact follows_applyComparison operating operator left right
  | boolean => exact follows_applyBoolean operating operator left right
  | concat =>
    dsimp only
    split
    · exact follows_join sturdy operating _ _
    · exact Exec.follows_fail (operating.failure rfl)
  | textConcat =>
    refine (Exec.follows_spell (operating.fault rfl)).bind fun leftText => ?_
    exact (Exec.follows_spell (operating.fault rfl)).bind fun rightText => Exec.follows_pure _

end Operator

/-- The key is a text of digits that is no integer. -/
structure Value.IsOddNumeral (key : Value) (text : String) : Prop where
  key : key = .string text
  digits : isDigits text = true
  odd : Numeral.integer? text.toList = none

theorem follows_positionOf? {key : Value} (arithmetic : ∀ fault, conduct.allows (.fault (.arithmetic fault)))
    (long : ∀ {limit counted}, conduct.allows (.fault (.invalidInteger (.tooLong limit counted))))
    (numeral : ∀ text, key.IsOddNumeral text → conduct.allows (.fault (.invalidInteger (.notDecimal text)))) :
    (positionOf? key).Follows conduct := by
  unfold positionOf?
  split
  · next text =>
    split
    · next digits =>
      refine (Exec.follows_ensureReadable long).bind fun _ => ?_
      split
      · exact Exec.follows_ofArithmetic arithmetic
      · next odd => exact Exec.follows_crash (numeral text ⟨rfl, digits, odd⟩)
    · exact Exec.follows_pure _
  · exact Exec.follows_ofArithmetic arithmetic
  · exact Exec.follows_pure _

theorem follows_readItem (size : Nat) (item : Nat → Value) {key : Value}
    (arithmetic : ∀ fault, conduct.allows (.fault (.arithmetic fault)))
    (long : ∀ {limit counted}, conduct.allows (.fault (.invalidInteger (.tooLong limit counted))))
    (numeral : ∀ text, key.IsOddNumeral text → conduct.allows (.fault (.invalidInteger (.notDecimal text)))) :
    (readItem size item key).Follows conduct := by
  unfold readItem
  split
  · exact Exec.follows_pure _
  · refine (follows_positionOf? arithmetic long numeral).bind fun position => ?_
    cases position <;> exact Exec.follows_pure _

/-- Arrays and texts, which have positions. -/
def Value.isSequence : Value → Bool
  | array _ | string _ => true
  | _ => false

/-- Reading a property crashes over numbers that are too large, and over digits that are no number. -/
theorem follows_readProperty_of {target key : Value}
    (arithmetic : ∀ fault, conduct.allows (.fault (.arithmetic fault)))
    (long : ∀ {limit counted}, conduct.allows (.fault (.invalidInteger (.tooLong limit counted))))
    (numeral : ∀ text, target.isSequence = true → key.IsOddNumeral text →
      conduct.allows (.fault (.invalidInteger (.notDecimal text)))) : (readProperty target key).Follows conduct := by
  unfold readProperty
  split
  · have entry (name : String) (ref : ObjectRef) : (do
        let entries ← Exec.read (·.entries ref)
        pure ((entries.get? name).getD Value.undefined)).Follows conduct :=
      (Exec.follows_read _).bind fun _ => Exec.follows_pure _
    split
    · exact (Exec.follows_pure _).bind fun name => entry name _
    · exact (Exec.follows_spell long).bind fun name => entry name _
  · refine (Exec.follows_read _).bind fun elements => ?_
    exact follows_readItem _ _ arithmetic long fun text => numeral text rfl
  · exact follows_readItem _ _ arithmetic long fun text => numeral text rfl
  · exact Exec.follows_pure _

theorem follows_readProperty (numeric : conduct.Numeric) (target key : Value) :
    (readProperty target key).Follows conduct :=
  follows_readProperty_of numeric.arithmetic (numeric.numeral _) fun _ _ _ => numeric.numeral _

theorem follows_writeElement (sturdy : conduct.Sturdy) (operating : conduct.Operating)
    (target index value : Value) : (writeElement target index value).Follows conduct := by
  unfold writeElement
  split
  · split
    · refine (Exec.follows_ofArithmetic fun _ => operating.fault rfl).bind fun position => ?_
      cases position with
      | none => exact Exec.follows_fail (operating.failure rfl)
      | some position =>
        refine (Exec.follows_read _).bind fun elements => Exec.follows_host.bind fun host => ?_
        split
        · exact Exec.follows_crash (operating.fault rfl)
        · split
          · exact Exec.follows_crash (operating.fault rfl)
          · refine (Exec.follows_change fun _ holds => sturdy.updateArray holds).bind fun _ => ?_
            exact Exec.follows_pure _
    · exact Exec.follows_fail (operating.failure rfl)
  · exact Exec.follows_fail (operating.failure rfl)

section Writing

variable {ref : ArrayRef} {number : Number} {position : Nat} {value : Value} {host : Host} {store : Store}

/-- What is done at an index that denotes a position depends on the gap to the position only. -/
theorem writeElement_of_toIndex? (found : number.toIndex? = .ok (some position)) :
    writeElement (.array ref) (.number number) value host store =
      if maximalGap < position + 1 - (store.elements ref).size then .stopped (.fault .gapTooLarge) store
      else if host.room < position + 1 - (store.elements ref).size then .stopped (.fault .outOfMemory) store
      else .done value (store.updateArray ref (writeAt position value)) := by
  have index : Exec.ofArithmetic number.toIndex? host store = .done (some position) store := by rw [found]; rfl
  have read : Exec.read (·.elements ref) host store = .done (store.elements ref) store := rfl
  have asked : Exec.host host store = .done host store := rfl
  simp only [writeElement, Exec.bind_of_done index, Exec.bind_of_done read, Exec.bind_of_done asked]
  split
  · rfl
  · split <;> rfl

theorem writeElement_of_toIndex?_error {fault : ArithmeticFault} (found : number.toIndex? = .error fault) :
    writeElement (.array ref) (.number number) value host store = .stopped (.fault (.arithmetic fault)) store := by
  have index : Exec.ofArithmetic number.toIndex? host store = .stopped (.fault (.arithmetic fault)) store := by
    rw [found]
    rfl
  exact Exec.bind_of_stopped index

theorem writeElement_of_toIndex?_none (found : number.toIndex? = .ok none) :
    writeElement (.array ref) (.number number) value host store =
      .stopped (.failure (.indexNotNatural number.text)) store := by
  have index : Exec.ofArithmetic number.toIndex? host store = .done none store := by rw [found]; rfl
  exact Exec.bind_of_done index

end Writing

namespace Builtin

variable (sturdy : conduct.Sturdy)

include sturdy

theorem follows_fetchText (tolerant : conduct.Tolerant) (address : String) :
    (fetchText address).Follows conduct := by
  refine Exec.follows_host.bind fun host => ?_
  refine (Exec.follows_change fun _ holds => sturdy.fetchStarted holds).bind fun _ => ?_
  split
  · exact Exec.follows_pure _
  · refine (Exec.follows_change fun _ holds => sturdy.fetchFailed holds).bind fun _ => ?_
    exact Exec.follows_fail (tolerant.failure rfl)
  · exact Exec.follows_crash tolerant.fault

theorem follows_request (answer : Host → Nat → Value) :
    (request answer).Follows conduct := ⟨fun _ _ holds => sturdy.request holds⟩

theorem follows_perform (tolerant : conduct.Tolerant) (function : Builtin) (args : List Value) :
    (function.perform args).Follows conduct := by
  have onQuantity (arg : Value) (answer : Quantity → Value) : (do
      let quantity ← Exec.quantityOf arg
      return answer quantity).Follows conduct :=
    (Exec.follows_spell tolerant.fault).bind fun _ => Exec.follows_pure _
  cases function with
  | print =>
    refine (Exec.follows_each fun value _ => Exec.follows_spell tolerant.fault).bind fun texts => ?_
    refine (Exec.follows_change fun _ holds => sturdy.write holds).bind fun _ => ?_
    exact Exec.follows_pure _
  | typeOf => exact Exec.follows_pure _
  | now => exact follows_request sturdy fun host n => .int (host.clock n)
  | random => exact follows_request sturdy fun host n => .number (.float (host.random n))
  | isNaN => exact onQuantity _ fun quantity => .bool quantity.toNumber.isNaN
  | abs => exact onQuantity _ (onFinite (fun n => n.natAbs) fun d => .number (.float d.abs))
  | sqrt =>
    refine (Exec.follows_spell tolerant.fault).bind fun quantity => ?_
    exact (Exec.follows_ofArithmetic fun _ => tolerant.fault).bind fun _ => Exec.follows_pure _
  | floor => exact onQuantity _ (onFinite id fun d => .int (d.floor?.getD 0))
  | ceil => exact onQuantity _ (onFinite id fun d => .int (d.ceil?.getD 0))
  | fetch =>
    refine (Exec.follows_spell tolerant.fault).bind fun address => ?_
    exact follows_fetchText sturdy tolerant address

theorem follows_call (tolerant : conduct.Tolerant) (function : Builtin) (args : List Value) :
    (function.call args).Follows conduct := by
  unfold call
  split
  · split
    · exact follows_perform sturdy tolerant function args
    · exact Exec.follows_crash tolerant.fault
  · exact follows_perform sturdy tolerant function args

end Builtin

end TreeScript
