import TreeScript.Operator.Apply
import TreeScript.Proofs.Memo.Keys
import TreeScript.Proofs.Memo.Pictures

/-! # Scalars

Numbers, texts, truth values, null and undefined are values in themselves. Operators applied to them
look at no store, and of the host only at how long an integer may be; they give scalars again. The key of a
list of scalars determines the list.
-/

namespace TreeScript

variable {α β : Type}

/-- A value that is known by itself, as opposed to one that is known by its identity. -/
def Value.isScalar : Value → Bool
  | undefined | null | bool _ | number _ | bigint _ | string _ => true
  | symbol _ | array _ | object _ | function _ => false

/-- A reason to stop that hands over no value other than a scalar. -/
def Stop.isScalar : Stop → Bool
  | signal (.returned value) => value.isScalar
  | _ => true

/-- The outcome with a given end that leaves a given store. -/
def Outcome.ofEnd (store : Store) : Except Stop α → Outcome α
  | .ok result => .done result store
  | .error reason => .stopped reason store

/-! ## Steps that do not depend on the store -/

namespace Exec

/-- On hosts with the given limit the step always ends in one and the same way, with a result that is as
stated, and leaves the store as it is. -/
def IsSteady (limit : Nat) (holds : α → Prop) (step : Exec α) : Prop :=
  ∃ ending : Except Stop α, (∀ host store, host.digitLimit = limit → step host store = .ofEnd store ending) ∧
    (∀ result, ending = .ok result → holds result) ∧
    ∀ reason, ending = .error reason → reason.isScalar = true

variable {limit : Nat} {holds : α → Prop} {goal : β → Prop}

theorem isSteady_pure {result : α} (known : holds result) : IsSteady limit holds (pure result) := by
  refine ⟨.ok result, fun _ _ _ => rfl, ?_, by simp⟩
  rintro _ ⟨⟩
  exact known

theorem isSteady_stop {reason : Stop} (scalar : reason.isScalar = true) :
    IsSteady limit holds (stop reason) := by
  refine ⟨.error reason, fun _ _ _ => rfl, by simp, ?_⟩
  rintro _ ⟨⟩
  exact scalar

theorem isSteady_fail (cause : Failure) : IsSteady limit holds (fail cause) := isSteady_stop rfl

theorem isSteady_ofArithmetic (answer : Except ArithmeticFault α) :
    IsSteady limit (fun _ => True) (ofArithmetic answer) := by
  cases answer with
  | ok result => exact isSteady_pure trivial
  | error fault => exact isSteady_stop rfl

theorem IsSteady.bind {step : Exec α} {next : α → Exec β} (first : IsSteady limit holds step)
    (rest : ∀ result, holds result → IsSteady limit goal (next result)) :
    IsSteady limit goal (step >>= next) := by
  obtain ⟨ending, ends, good, scalar⟩ := first
  have runs (host : Host) (store : Store) (known : host.digitLimit = limit) :
      (step >>= next) host store = andThen (fun _ _ => .ofEnd store ending) next host store := by
    change andThen step next host store = _
    rw [andThen, ends host store known]
    rfl
  cases ending with
  | ok result =>
    obtain ⟨later, laterEnds, laterGood, laterScalar⟩ := rest result (good result rfl)
    exact ⟨later, fun host store known => (runs host store known).trans (laterEnds host store known), laterGood, laterScalar⟩
  | error reason => exact ⟨.error reason, runs, by simp, fun _ same => scalar _ (by cases same; rfl)⟩

theorem isSteady_textOf {value : Value} (scalar : value.isScalar = true) :
    IsSteady limit (fun _ => True) (textOf value) := by
  obtain ⟨text, integers, shown⟩ : ∃ text integers, ∀ store : Store, store.text? value = some text ∧
      store.integers false value = integers := by
    cases value with
    | symbol | array | object | function => cases scalar
    | number n =>
      cases n <;> exact ⟨_, _, fun store => ⟨by rw [Store.text?, Store.depth, Store.textWithin], rfl⟩⟩
    | _ => exact ⟨_, _, fun store => ⟨by rw [Store.text?, Store.depth, Store.textWithin], rfl⟩⟩
  let host : Host := { (default : Host) with digitLimit := limit }
  refine ⟨if integers.all host.writes then .ok text else .error (.fault (host.tooLong none)),
    fun other store known => ?_, fun _ _ => trivial, fun reason ends => ?_⟩
  · have same : other.writes = host.writes := by
      unfold Host.writes
      rw [known]
    simp only [textOf, spell, shown store, same, Host.tooLong, known]
    split <;> rfl
  · split at ends
    · cases ends
    · cases ends
      rfl

end Exec

namespace Operator

open Exec

variable (operator : Operator)

theorem isSteady_applyArithmetic (left right : Value) :
    IsSteady limit (·.isScalar = true) (operator.applyArithmetic left right) := by
  unfold applyArithmetic
  split
  · exact (isSteady_ofArithmetic _).bind fun _ _ => isSteady_pure rfl
  · split
    · exact isSteady_pure rfl
    · exact isSteady_fail _
  · exact isSteady_fail _

theorem isSteady_applyComparison (left right : Value) :
    IsSteady limit (·.isScalar = true) (operator.applyComparison left right) := by
  unfold applyComparison
  split <;> first | exact isSteady_pure rfl | exact isSteady_fail _

theorem isSteady_applyBoolean (left right : Value) :
    IsSteady limit (·.isScalar = true) (operator.applyBoolean left right) := by
  refine (isSteady_ofArithmetic _).bind fun leftHolds _ => ?_
  split
  · exact (isSteady_ofArithmetic _).bind fun _ _ => isSteady_pure rfl
  · exact isSteady_pure rfl

/-- Operators on scalars look at no store and give scalars. -/
theorem isSteady_apply {left right : Value} (leftScalar : left.isScalar = true)
    (rightScalar : right.isScalar = true) :
    IsSteady limit (·.isScalar = true) (operator.apply left right) := by
  unfold apply
  split
  · exact operator.isSteady_applyArithmetic left right
  · exact operator.isSteady_applyComparison left right
  · exact operator.isSteady_applyBoolean left right
  · split
    · cases leftScalar
    · exact isSteady_fail _
  · refine (isSteady_textOf leftScalar).bind fun _ _ => ?_
    exact (isSteady_textOf rightScalar).bind fun _ _ => isSteady_pure rfl

end Operator

/-! ## Keys of scalars -/

/-- The picture of a scalar. -/
def Value.drawing : Value → Picture
  | bool value => .bool value
  | number value => .number value
  | bigint value => .bigint value
  | string value => .string value
  | null => .null
  | _ => .undefined

namespace Store

theorem picture?_of_scalar (store : Store) (identity : FunctionRef → Nat) {value : Value}
    (scalar : value.isScalar = true) : store.picture? value identity = some value.drawing := by
  unfold picture? depth
  cases value with
  | symbol | array | object | function => cases scalar
  | _ => rfl

theorem key?_of_scalars (store : Store) (identity : FunctionRef → Nat) {values : List Value}
    (scalars : ∀ value ∈ values, value.isScalar = true) :
    store.key? values identity = some (String.ofList (Picture.array (values.map Value.drawing)).keyChars) := by
  have drawn : values.mapM (store.picture? · identity) = some (values.map Value.drawing) := by
    rw [mapM_eq_some_iff, List.forall₂_map_right_iff, List.forall₂_same]
    exact fun value member => store.picture?_of_scalar identity (scalars value member)
  rw [key?, drawn, Picture.keyChars, Picture.keyCharsOfAll_eq_map]
  rfl

theorem integers_of_scalar (store other : Store) {value : Value} (scalar : value.isScalar = true) :
    store.integers true value = other.integers true value := by
  unfold integers depth
  cases value with
  | symbol | array | object | function => cases scalar
  | number n => cases n <;> rfl
  | _ => rfl

end Store

/-- Whether a host can write the integers among scalars, which are part of the key of a call. -/
def Host.remembers (host : Host) (args : List Value) : Bool :=
  (args.flatMap (Store.initial.integers true)).all host.writes

/-- Scalars have a key, unless one of them is an integer that is too long. -/
theorem Exec.keyOf_of_scalars {args : List Value} (scalars : ∀ arg ∈ args, arg.isScalar = true) (host : Host)
    (store : Store) :
    ∃ key, Store.initial.key? args = some key ∧ Exec.keyOf args host store =
      if host.remembers args then .done key store else .stopped (.fault (host.tooLong none)) store := by
  have same : args.flatMap (store.integers true) = args.flatMap (Store.initial.integers true) :=
    List.flatMap_congr fun arg member => store.integers_of_scalar .initial (scalars arg member)
  refine ⟨_, Store.initial.key?_of_scalars _ scalars, ?_⟩
  simp only [keyOf, spell, Store.key?_of_scalars _ _ scalars, same, Host.remembers]
  rfl

theorem Value.drawing_inj {left right : Value} (leftScalar : left.isScalar = true)
    (rightScalar : right.isScalar = true)
    (same : left.drawing.canonical = right.drawing.canonical) : left = right := by
  cases left <;> cases leftScalar <;> cases right <;> cases rightScalar <;> cases same <;> rfl

/-- The key of a list of scalars determines the list. -/
theorem eq_of_key?_eq {store other : Store} {identity : FunctionRef → Nat} {left right : List Value}
    (leftScalars : ∀ value ∈ left, value.isScalar = true)
    (rightScalars : ∀ value ∈ right, value.isScalar = true)
    (same : store.key? left identity = other.key? right identity) : left = right := by
  rw [store.key?_of_scalars identity leftScalars, other.key?_of_scalars identity rightScalars, Option.some_inj,
    String.ofList_inj, Picture.keyChars_eq_iff, Picture.canonical, Picture.canonical,
    Picture.canonicalAll_eq_map, Picture.canonicalAll_eq_map, Picture.array.injEq, List.map_map,
    List.map_map] at same
  induction left generalizing right with
  | nil =>
    rw [List.map_nil, eq_comm, List.map_eq_nil_iff] at same
    exact same.symm
  | cons value left ih =>
    cases right with
    | nil => cases same
    | cons other right =>
      obtain ⟨leftScalar, leftScalars⟩ := List.forall_mem_cons.mp leftScalars
      obtain ⟨rightScalar, rightScalars⟩ := List.forall_mem_cons.mp rightScalars
      rw [List.map_cons, List.map_cons, List.cons.injEq] at same
      rw [Value.drawing_inj leftScalar rightScalar same.1, ih leftScalars rightScalars same.2]

end TreeScript
