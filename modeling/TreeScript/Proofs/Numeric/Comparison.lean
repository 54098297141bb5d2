import TreeScript.Operator.Apply
import TreeScript.Proofs.Numeric.Rounding

/-! # The order of values

Numbers compare by the exact places that they have on the number line, an integer of any size with a double
as well as with an integer, and texts compare by their code points. So the six comparisons agree with one
another: of two numbers other than NaN, and of two texts, one is less, or both are equal, or one is greater.
-/

namespace TreeScript

open Std

/-! ## Positions -/

instance : OrientedCmp Position.compare where
  eq_swap {left right} := by
    cases left with
    | point left =>
      cases right with
      | point right => exact OrientedOrd.eq_swap
      | _ => rfl
    | _ => cases right <;> rfl

instance : TransCmp Position.compare where
  isLE_trans {left middle right} first second := by
    cases left with
    | below => cases right <;> rfl
    | point left =>
      cases middle with
      | below => cases first
      | point middle =>
        cases right with
        | below => cases second
        | point right => exact TransOrd.isLE_trans (first : (compare left middle).isLE = true) second
        | above => rfl
      | above =>
        cases right with
        | above => rfl
        | _ => cases second
    | above =>
      cases middle with
      | above => exact second
      | _ => cases first

instance : ReflCmp Position.compare where
  compare_self {position} := by
    cases position with
    | point units => exact ReflOrd.compare_self
    | _ => rfl

instance : TransCmp Operator.compareTexts := inferInstanceAs (TransOrd String)

instance : LawfulEqCmp Operator.compareTexts := inferInstanceAs (LawfulEqOrd String)

theorem Position.compare_point_eq_iff {position : Position} {units : Int} :
    position.compare (.point units) = .eq ↔ position = .point units := by
  cases position <;> simp [Position.compare]

namespace Number

variable {left middle right number : Number}

theorem position?_eq_none_iff : number.position? = none ↔ number = .nan := by
  cases number with
  | int n => exact ⟨nofun, nofun⟩
  | float double =>
    cases double with
    | nan => exact ⟨fun _ => rfl, fun _ => rfl⟩
    | infinite | finite => exact ⟨nofun, nofun⟩

theorem compare?_eq_some_iff {ordering : Ordering} :
    left.compare? right = some ordering ↔
      ∃ place other, left.position? = some place ∧ right.position? = some other ∧ place.compare other = ordering := by
  unfold compare?
  cases left.position? with
  | none => simp
  | some place =>
    cases right.position? with
    | none | some => simp

theorem compare?_nan_left (number : Number) : Number.nan.compare? number = none := rfl

theorem compare?_nan_right (number : Number) : number.compare? .nan = none := by
  have none : Number.nan.position? = none := rfl
  rw [compare?, none]
  cases number.position? <;> rfl

theorem exists_compare? (leftProper : left ≠ .nan) (rightProper : right ≠ .nan) :
    ∃ ordering, left.compare? right = some ordering := by
  obtain ⟨place, atLeft⟩ := Option.ne_none_iff_exists'.mp (mt position?_eq_none_iff.mp leftProper)
  obtain ⟨other, atRight⟩ := Option.ne_none_iff_exists'.mp (mt position?_eq_none_iff.mp rightProper)
  exact ⟨_, compare?_eq_some_iff.mpr ⟨place, other, atLeft, atRight, rfl⟩⟩

theorem compare?_swap (left right : Number) : right.compare? left = (left.compare? right).map Ordering.swap := by
  unfold compare?
  cases left.position? with
  | none => cases right.position? <;> rfl
  | some place =>
    cases right.position? with
    | none => rfl
    | some other => exact congrArg some OrientedCmp.eq_swap

theorem compare?_self (proper : number ≠ .nan) : number.compare? number = some .eq := by
  obtain ⟨place, found⟩ := Option.ne_none_iff_exists'.mp (mt position?_eq_none_iff.mp proper)
  exact compare?_eq_some_iff.mpr ⟨place, place, found, found, ReflCmp.compare_self⟩

/-- Less and equal are transitive. -/
theorem compare?_trans {ordering : Ordering} (notGreater : ordering ≠ .gt)
    (first : left.compare? middle = some ordering) (second : middle.compare? right = some ordering) :
    left.compare? right = some ordering := by
  obtain ⟨place, between, atLeft, atMiddle, ordered⟩ := compare?_eq_some_iff.mp first
  obtain ⟨between', other, atMiddle', atRight, ordered'⟩ := compare?_eq_some_iff.mp second
  obtain rfl : between = between' := Option.some.inj (atMiddle.symm.trans atMiddle')
  refine compare?_eq_some_iff.mpr ⟨place, other, atLeft, atRight, ?_⟩
  cases ordering with
  | lt => exact TransCmp.lt_trans ordered ordered'
  | eq => exact TransCmp.eq_trans ordered ordered'
  | gt => exact absurd rfl notGreater

theorem compare?_int_eq_iff {n : Int} :
    number.compare? (.int n) = some .eq ↔ number.position? = some (.point (n * unitsPerOne)) := by
  have right : (Number.int n).position? = some (.point (n * unitsPerOne)) := rfl
  rw [compare?, right]
  cases number.position? with
  | none => constructor <;> intro same <;> cases same
  | some position =>
    change some (position.compare (.point (n * unitsPerOne))) = some .eq ↔ _
    rw [Option.some.injEq, Option.some.injEq, Position.compare_point_eq_iff]

/-- Every number but the integers beyond the doubles has a double that stands for it. -/
def IsNarrow (number : Number) : Prop := ∃ double, number.toBinary64 = .ok double

theorem isNarrow_int_iff {n : Int} : (Number.int n).IsNarrow ↔ (Binary64.ofInt? n).isSome = true := by
  unfold IsNarrow toBinary64
  simp only
  split
  · next double found => simp [found]
  · next missing => simp [missing]

/-- Numbers that are equal to a natural number are narrow only if it is. -/
theorem isNarrow_iff_of_equal {position : Nat} (equal : number.compare? (.int position) = some .eq) :
    number.IsNarrow ↔ (Number.int position).IsNarrow := by
  rw [compare?_int_eq_iff] at equal
  cases number with
  | int m =>
    have same : m * (unitsPerOne : Int) = position * (unitsPerOne : Int) := Position.point.inj (Option.some.inj equal)
    rw [Int.eq_of_mul_eq_mul_right unitsPerOne_ne_zero same]
  | float double =>
    have narrow : (Number.float double).IsNarrow := ⟨double, rfl⟩
    rw [iff_true_left narrow, isNarrow_int_iff]
    cases double with
    | nan => cases equal
    | infinite negative => cases negative <;> cases equal
    | finite negative units representable =>
      have same : Binary64.signedUnits negative units = position * (unitsPerOne : Int) :=
        Position.point.inj (Option.some.inj equal)
      rw [Binary64.eq_of_signedUnits_eq same] at representable
      exact Binary64.isSome_ofInt?_of_finite (Binary64.ofInt_of_representable representable)

/-- The number that is meant by a finite number. -/
def rational? : Number → Option ℚ
  | int n => some n
  | float (.finite negative units _) => some (Binary64.signedUnits negative units / unitsPerOne)
  | _ => none

theorem position?_of_rational? {x : ℚ} (exact : number.rational? = some x) :
    ∃ units : Int, number.position? = some (.point units) ∧ x = units / unitsPerOne := by
  have positive : (unitsPerOne : ℚ) ≠ 0 := Nat.cast_ne_zero.mpr unitsPerOne_pos.ne'
  cases number with
  | int n =>
    cases exact
    exact ⟨n * unitsPerOne, rfl, by rw [Int.cast_mul, Int.cast_natCast, mul_div_cancel_right₀ _ positive]⟩
  | float double =>
    cases double with
    | nan | infinite => cases exact
    | finite negative units representable =>
      cases exact
      exact ⟨_, rfl, rfl⟩

/-- Finite numbers compare as the numbers that are meant. -/
theorem compare?_of_rational? {x y : ℚ} (ofLeft : left.rational? = some x) (ofRight : right.rational? = some y) :
    left.compare? right = some (compare x y) := by
  obtain ⟨units, place, rfl⟩ := position?_of_rational? ofLeft
  obtain ⟨others, other, rfl⟩ := position?_of_rational? ofRight
  have positive : (0 : ℚ) < unitsPerOne := Nat.cast_pos.mpr unitsPerOne_pos
  have ordered : compare units others = compare (units / unitsPerOne : ℚ) (others / unitsPerOne) := by
    rcases Int.lt_trichotomy units others with lesser | rfl | greater
    · rw [compare_lt_iff_lt.mpr lesser, eq_comm, compare_lt_iff_lt]
      exact div_lt_div_of_pos_right (Int.cast_lt.mpr lesser) positive
    · rw [ReflOrd.compare_self, ReflOrd.compare_self]
    · rw [compare_gt_iff_gt.mpr greater, eq_comm, compare_gt_iff_gt]
      exact div_lt_div_of_pos_right (Int.cast_lt.mpr greater) positive
  exact compare?_eq_some_iff.mpr ⟨_, _, place, other, ordered⟩

end Number

/-! ## Equality -/

namespace Value

variable {left middle right value : Value}

theorem strictEquals_symm (equal : left.strictEquals right = true) : right.strictEquals left = true := by
  unfold strictEquals at equal
  split at equal
  case h_4 left right =>
    refine beq_iff_eq.mpr ?_
    rw [Number.compare?_swap, eq_of_beq equal]
    rfl
  case h_11 => cases equal
  all_goals first | rfl | exact BEq.symm equal

theorem strictEquals_trans (first : left.strictEquals middle = true) (second : middle.strictEquals right = true) :
    left.strictEquals right = true := by
  unfold strictEquals at first
  split at first
  case h_4 left middle =>
    cases right with
    | number right => exact beq_iff_eq.mpr (Number.compare?_trans nofun (eq_of_beq first) (eq_of_beq second))
    | _ => cases second
  case h_7 left middle =>
    cases right with
    | symbol right => exact BEq.trans first second
    | _ => cases second
  case h_11 => cases first
  all_goals first | exact second | exact eq_of_beq first ▸ second

/-- NaN is the one value that is not equal to itself. -/
theorem strictEquals_self_iff : value.strictEquals value = true ↔ value ≠ .number .nan := by
  constructor
  · rintro equal rfl
    cases equal
  · intro proper
    cases value with
    | number number =>
      exact beq_iff_eq.mpr (Number.compare?_self fun same => proper (congrArg Value.number same))
    | undefined | null => rfl
    | _ => exact BEq.rfl

/-- How two values compare that can be compared: numbers by their positions, texts by their code points. -/
inductive Compares : Value → Value → Option Ordering → Prop
  | numbers {left right : Number} {ordering? : Option Ordering} (compared : left.compare? right = ordering?) :
      Compares (.number left) (.number right) ordering?
  | texts {left right : String} {ordering : Ordering} (compared : Operator.compareTexts left right = ordering) :
      Compares (.string left) (.string right) (some ordering)

/-- Two numbers, neither of them NaN, or two texts. -/
inductive AreOrdered : Value → Value → Prop
  | numbers {left right : Number} (leftProper : left ≠ .nan) (rightProper : right ≠ .nan) :
      AreOrdered (.number left) (.number right)
  | texts (left right : String) : AreOrdered (.string left) (.string right)

theorem AreOrdered.exists_compares (ordered : left.AreOrdered right) :
    ∃ ordering, left.Compares right (some ordering) := by
  cases ordered with
  | numbers leftProper rightProper =>
    obtain ⟨ordering, compared⟩ := Number.exists_compare? leftProper rightProper
    exact ⟨ordering, .numbers compared⟩
  | texts left right => exact ⟨_, .texts rfl⟩

namespace Compares

variable {ordering? : Option Ordering} {ordering : Ordering}

theorem strictEquals_eq (compares : left.Compares right ordering?) :
    left.strictEquals right = (ordering? == some .eq) := by
  cases compares with
  | numbers compared =>
    rw [← compared]
    rfl
  | texts compared =>
    rw [← compared, Bool.eq_iff_iff, beq_iff_eq, Option.some.injEq, LawfulEqCmp.compare_eq_iff_eq]
    exact beq_iff_eq

theorem swap (compares : left.Compares right ordering?) : right.Compares left (ordering?.map Ordering.swap) := by
  cases compares with
  | numbers compared =>
    refine .numbers ?_
    rw [Number.compare?_swap, compared]
  | @texts left right _ compared =>
    have swapped : Operator.compareTexts right left = (Operator.compareTexts left right).swap := OrientedCmp.eq_swap
    exact .texts (swapped.trans (congrArg Ordering.swap compared))

theorem less_trans (first : left.Compares middle (some .lt)) (second : middle.Compares right (some .lt)) :
    left.Compares right (some .lt) := by
  cases first with
  | numbers less =>
    cases second with
    | numbers less' => exact .numbers (Number.compare?_trans nofun less less')
  | texts less =>
    cases second with
    | texts less' => exact .texts (TransCmp.lt_trans less less')

end Compares

end Value

/-! ## Comparisons -/

namespace Operator

variable {operator : Operator} {left middle right : Value} {ordering? : Option Ordering}

/-- The operator holds of the values, whatever the host and the store, and nothing changes. -/
def Affirms (operator : Operator) (left right : Value) : Prop :=
  ∀ host store, operator.apply left right host store = .done (.bool true) store

/-- The operator does not hold of the values, whatever the host and the store, and nothing changes. -/
def Denies (operator : Operator) (left right : Value) : Prop :=
  ∀ host store, operator.apply left right host store = .done (.bool false) store

/-- The operators that ask for an order. -/
def orderings : List Operator := [less, lessEqual, greater, greaterEqual]

section Answers

variable {verdict : Bool}
  (answers : ∀ host store, operator.apply left right host store = .done (.bool verdict) store)
include answers

theorem affirms_iff_of_answers : operator.Affirms left right ↔ verdict = true := by
  constructor
  · intro affirms
    have same := (answers default .initial).symm.trans (affirms default .initial)
    cases same
    rfl
  · rintro rfl
    exact answers

theorem denies_iff_of_answers : operator.Denies left right ↔ verdict = false := by
  constructor
  · intro denies
    have same := (answers default .initial).symm.trans (denies default .initial)
    cases same
    rfl
  · rintro rfl
    exact answers

end Answers

theorem equal_affirms_iff : equal.Affirms left right ↔ left.strictEquals right = true :=
  affirms_iff_of_answers fun _ _ => rfl

theorem equal_denies_iff : equal.Denies left right ↔ left.strictEquals right = false :=
  denies_iff_of_answers fun _ _ => rfl

theorem apply_of_compares (ordering : operator ∈ orderings) (compares : left.Compares right ordering?)
    (host : Host) (store : Store) :
    operator.apply left right host store = .done (.bool (operator.holds ordering?)) store := by
  simp only [orderings, List.mem_cons, List.not_mem_nil, or_false] at ordering
  rcases ordering with rfl | rfl | rfl | rfl <;> cases compares with
  | numbers compared => rw [← compared]; rfl
  | texts compared => rw [← compared]; rfl

theorem affirms_iff_of_compares (ordering : operator ∈ orderings) (compares : left.Compares right ordering?) :
    operator.Affirms left right ↔ operator.holds ordering? = true :=
  affirms_iff_of_answers (apply_of_compares ordering compares)

theorem denies_iff_of_compares (ordering : operator ∈ orderings) (compares : left.Compares right ordering?) :
    operator.Denies left right ↔ operator.holds ordering? = false :=
  denies_iff_of_answers (apply_of_compares ordering compares)

/-- Only values that can be compared are less than others. -/
theorem less_affirms_iff : less.Affirms left right ↔ left.Compares right (some .lt) := by
  constructor
  · intro affirms
    have answered : less.applyComparison left right default .initial = .done (.bool true) .initial :=
      affirms default .initial
    have compares : ∃ ordering?, left.Compares right ordering? := by
      cases left with
      | number left =>
        cases right with
        | number right => exact ⟨_, .numbers rfl⟩
        | _ => cases answered
      | string left =>
        cases right with
        | string right => exact ⟨_, .texts rfl⟩
        | _ => cases answered
      | _ => cases answered
    obtain ⟨ordering?, compares⟩ := compares
    have holds := (affirms_iff_of_compares (by decide) compares).mp affirms
    rcases ordering? with _ | (_ | _ | _)
    · cases holds
    · exact compares
    · cases holds
    · cases holds
  · exact fun compares => (affirms_iff_of_compares (by decide) compares).mpr rfl

/-- One of the three relations holds of the values and the other two do not, and the weaker comparisons say
the same as these. -/
structure Settles (left right : Value) : Prop where
  exactlyOne : less.Affirms left right ∧ equal.Denies left right ∧ greater.Denies left right ∨
    less.Denies left right ∧ equal.Affirms left right ∧ greater.Denies left right ∨
    less.Denies left right ∧ equal.Denies left right ∧ greater.Affirms left right
  answers : ∀ operator ∈ orderings, operator.Affirms left right ∨ operator.Denies left right
  lessEqual_iff : lessEqual.Affirms left right ↔ less.Affirms left right ∨ equal.Affirms left right
  greaterEqual_iff : greaterEqual.Affirms left right ↔ lessEqual.Affirms right left

theorem settles_of_compares {ordering : Ordering} (compares : left.Compares right (some ordering)) :
    Settles left right where
  exactlyOne := by
    rw [equal_affirms_iff, equal_denies_iff, compares.strictEquals_eq, affirms_iff_of_compares (by decide) compares,
      denies_iff_of_compares (by decide) compares, affirms_iff_of_compares (by decide) compares,
      denies_iff_of_compares (by decide) compares]
    cases ordering <;> decide
  answers operator member := by
    rw [affirms_iff_of_compares member compares, denies_iff_of_compares member compares]
    exact Bool.eq_false_or_eq_true _
  lessEqual_iff := by
    rw [equal_affirms_iff, compares.strictEquals_eq, affirms_iff_of_compares (by decide) compares,
      affirms_iff_of_compares (by decide) compares]
    cases ordering <;> decide
  greaterEqual_iff := by
    rw [affirms_iff_of_compares (by decide) compares, affirms_iff_of_compares (by decide) compares.swap]
    cases ordering <;> decide

theorem denies_nan (number : Number) (member : operator ∈ orderings) :
    operator.Denies (.number .nan) (.number number) ∧ operator.Denies (.number number) (.number .nan) := by
  rw [denies_iff_of_compares member (.numbers rfl), denies_iff_of_compares member (.numbers rfl),
    Number.compare?_nan_left, Number.compare?_nan_right]
  have unordered : operator.holds none = false := by cases operator <;> rfl
  exact ⟨unordered, unordered⟩

/-- Equality is an equivalence on all values but NaN, which is equal to nothing. Numbers other than NaN and
texts are in a total order, finite numbers in the order of the numbers that are meant, and the six
comparisons agree about it. NaN is in no order with any number. -/
theorem comparisons_are_consistent :
    (∀ left right, equal.Affirms left right ∨ equal.Denies left right) ∧
    (∀ left right, equal.Affirms left right → equal.Affirms right left) ∧
    (∀ left middle right, equal.Affirms left middle → equal.Affirms middle right → equal.Affirms left right) ∧
    (∀ value, equal.Affirms value value ↔ value ≠ .number .nan) ∧
    (∀ left right, left.AreOrdered right → Settles left right) ∧
    (∀ left middle right, less.Affirms left middle → less.Affirms middle right → less.Affirms left right) ∧
    (∀ (left right : Number) (x y : ℚ), left.rational? = some x → right.rational? = some y →
      (less.Affirms (.number left) (.number right) ↔ x < y) ∧
        (equal.Affirms (.number left) (.number right) ↔ x = y)) ∧
    ∀ operator ∈ orderings, ∀ number,
      operator.Denies (.number .nan) (.number number) ∧ operator.Denies (.number number) (.number .nan) := by
  refine ⟨?_, ?_, ?_, ?_, ?_, ?_, ?_, ?_⟩
  · intro left right
    rw [equal_affirms_iff, equal_denies_iff]
    exact Bool.eq_false_or_eq_true _
  · intro left right
    rw [equal_affirms_iff, equal_affirms_iff]
    exact Value.strictEquals_symm
  · intro left middle right
    rw [equal_affirms_iff, equal_affirms_iff, equal_affirms_iff]
    exact Value.strictEquals_trans
  · intro value
    rw [equal_affirms_iff, Value.strictEquals_self_iff]
  · intro left right ordered
    obtain ⟨ordering, compares⟩ := ordered.exists_compares
    exact settles_of_compares compares
  · intro left middle right
    rw [less_affirms_iff, less_affirms_iff, less_affirms_iff]
    exact Value.Compares.less_trans
  · intro left right x y ofLeft ofRight
    have compares : Value.Compares (.number left) (.number right) (some (compare x y)) :=
      .numbers (Number.compare?_of_rational? ofLeft ofRight)
    have same : compare x y = .eq ↔ x = y := Std.compare_eq_iff_eq
    rw [affirms_iff_of_compares (by decide) compares, equal_affirms_iff, compares.strictEquals_eq,
      ← compare_lt_iff_lt, ← same]
    cases compare x y <;> decide
  · exact fun operator member number => denies_nan number member

/-- No rounding brings the least integer that is not a double down to the double below it. -/
theorem less_affirms_neighbours :
    (Number.float (.ofInt (2 ^ 53))).rational? = some (2 ^ 53) ∧
      less.Affirms (.number (.float (.ofInt (2 ^ 53)))) (.int (2 ^ 53 + 1)) ∧
      Settles (.number (.float (.ofInt (2 ^ 53)))) (.int (2 ^ 53 + 1)) := by
  obtain ⟨_, _, _, _, settles, _, places, _⟩ := comparisons_are_consistent
  have double : (Number.float (.ofInt (2 ^ 53))).rational? = some (2 ^ 53) := by decide +kernel
  refine ⟨double, ?_, settles _ _ (.numbers (by decide +kernel) nofun)⟩
  exact (places _ _ _ _ double rfl).1.mpr (by exact_mod_cast Nat.lt_add_one (2 ^ 53))

end Operator

end TreeScript
