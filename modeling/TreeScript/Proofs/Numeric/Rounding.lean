import Mathlib.Algebra.Order.Field.Rat
import Mathlib.Tactic.Positivity
import Mathlib.Tactic.Ring
import TreeScript.Numeric.Decimal

/-! # Reading decimals

Rounding a quotient depends only on the number that the quotient is, and reading a decimal is the
rounding of its exact value, also where the value is so large or small that it is not computed. So
decimals of equal value read as the same double, and dropping zeros at the end changes nothing. The
decimal that is chosen to write a double reads back as that double.
-/

namespace TreeScript

theorem unitsPerOne_pos : 0 < unitsPerOne := by
  unfold unitsPerOne
  positivity

theorem nearestEven_mul {factor : Nat} (positive : 0 < factor) (num den : Nat) :
    nearestEven (factor * num) (factor * den) = nearestEven num den := by
  have below : 2 * (factor * (num % den)) < factor * den ↔ 2 * (num % den) < den := by
    rw [Nat.mul_left_comm]
    exact Nat.mul_lt_mul_left positive
  have above : factor * den < 2 * (factor * (num % den)) ↔ den < 2 * (num % den) := by
    rw [Nat.mul_left_comm]
    exact Nat.mul_lt_mul_left positive
  simp only [nearestEven, Nat.mul_div_mul_left _ _ positive, Nat.mul_mod_mul_left, below, above]

theorem nearestEven_mul_self {den : Nat} (positive : 0 < den) (num : Nat) :
    nearestEven (num * den) den = num := by
  simp only [nearestEven, Nat.mul_mod_left, Nat.mul_div_cancel _ positive, Nat.mul_zero,
    if_pos positive]

theorem roundUnits_mul {factor : Nat} (positive : 0 < factor) (num den : Nat) :
    roundUnits (factor * num) (factor * den) = roundUnits num den := by
  simp only [roundUnits, Nat.mul_div_mul_left _ _ positive, Nat.mul_assoc, nearestEven_mul positive]

/-- Equal quotients are rounded equally. -/
theorem roundUnits_congr {num den otherNum otherDen : Nat} (positive : 0 < den)
    (otherPositive : 0 < otherDen) (equal : num * otherDen = otherNum * den) :
    roundUnits num den = roundUnits otherNum otherDen := by
  calc roundUnits num den
      = roundUnits (otherDen * num) (otherDen * den) := (roundUnits_mul otherPositive num den).symm
    _ = roundUnits (den * otherNum) (den * otherDen) := by
      rw [Nat.mul_comm otherDen num, equal, Nat.mul_comm otherNum den, Nat.mul_comm otherDen den]
    _ = roundUnits otherNum otherDen := roundUnits_mul positive otherNum otherDen

/-- A count that a double can hold is rounded to itself. -/
theorem roundUnits_of_representable {units den : Nat} (representable : Representable units)
    (positive : 0 < den) : roundUnits (units * den) den = units := by
  have whole : roundUnits (units * den) den = roundUnits units 1 :=
    roundUnits_congr positive Nat.one_pos (Nat.mul_one _)
  have spaced : units / 2 ^ (units.log2 - 52) * 2 ^ (units.log2 - 52) = units :=
    Nat.div_mul_cancel (Nat.dvd_of_mod_eq_zero representable.2)
  rw [whole, roundUnits]
  simp only [Nat.div_one, Nat.one_mul]
  conv => lhs; arg 1; arg 1; rw [← spaced]
  rw [nearestEven_mul_self (Nat.two_pow_pos _), spaced]

/-- What is less than half a unit is rounded to nothing. -/
theorem roundUnits_small {num den : Nat} (small : 2 * num < den) : roundUnits num den = 0 := by
  have less : num < den := by omega
  simp only [roundUnits, Nat.div_eq_of_lt less, Nat.log2_zero, Nat.zero_sub, Nat.pow_zero,
    Nat.mul_one, nearestEven, Nat.mod_eq_of_lt less, if_pos small]

theorem div_le_nearestEven (num den : Nat) : num / den ≤ nearestEven num den := by
  unfold nearestEven
  dsimp only
  split
  · exact Nat.le_refl _
  · split <;> omega

/-- Rounding does not take a number below a power of two that is not above it. -/
theorem two_pow_le_roundUnits (bits : Nat) {num : Nat} (wide : 52 ≤ bits) (large : 2 ^ bits ≤ num) :
    2 ^ bits ≤ roundUnits num 1 := by
  have nonzero : num ≠ 0 := Nat.ne_of_gt ((Nat.two_pow_pos bits).trans_le large)
  have longer : bits ≤ num.log2 := (Nat.le_log2 nonzero).mpr large
  have spacing : 2 ^ 52 * 2 ^ (num.log2 - 52) = 2 ^ num.log2 := by
    rw [← Nat.pow_add]
    congr 1
    omega
  have mantissa : 2 ^ 52 ≤ num / 2 ^ (num.log2 - 52) := by
    rw [Nat.le_div_iff_mul_le (Nat.two_pow_pos _), spacing]
    exact Nat.log2_self_le nonzero
  calc 2 ^ bits ≤ 2 ^ num.log2 := Nat.pow_le_pow_right Nat.two_pos longer
    _ = 2 ^ 52 * 2 ^ (num.log2 - 52) := spacing.symm
    _ ≤ nearestEven num (1 * 2 ^ ((num / 1).log2 - 52)) * 2 ^ ((num / 1).log2 - 52) := by
      rw [Nat.div_one, Nat.one_mul]
      exact Nat.mul_le_mul_right _ (mantissa.trans (div_le_nearestEven _ _))

/-- What no double can hold is not rounded to a count that a double can hold. -/
theorem not_representable_of_large {num : Nat} (large : 2 ^ 2098 ≤ num) :
    ¬Representable (roundUnits num 1) := by
  have kept := two_pow_le_roundUnits 2098 (by decide) large
  rintro ⟨bounded, _⟩
  exact Nat.lt_irrefl _ (bounded.trans_le kept)

namespace Decimal

/-- The number that a decimal denotes. -/
def value (decimal : Decimal) : ℚ := decimal.coefficient * 10 ^ decimal.exponent

/-- The exact count of units of a decimal is `unitsNum / unitsDen`. -/
def unitsNum (decimal : Decimal) : Nat :=
  match decimal.exponent with
  | .ofNat exponent => decimal.coefficient * 10 ^ exponent * unitsPerOne
  | .negSucc _ => decimal.coefficient * unitsPerOne

@[inherit_doc unitsNum]
def unitsDen (decimal : Decimal) : Nat :=
  match decimal.exponent with
  | .ofNat _ => 1
  | .negSucc exponent => 10 ^ (exponent + 1)

theorem unitsDen_pos (decimal : Decimal) : 0 < decimal.unitsDen := by
  unfold unitsDen
  split
  · exact Nat.one_pos
  · exact Nat.pow_pos (by decide)

theorem unitsNum_div_unitsDen (decimal : Decimal) :
    (decimal.unitsNum / decimal.unitsDen : ℚ) = decimal.value * unitsPerOne := by
  obtain ⟨coefficient, exponent | exponent⟩ := decimal
  · simp only [unitsNum, unitsDen, value, Int.ofNat_eq_natCast, zpow_natCast]
    push_cast
    ring
  · simp only [unitsNum, unitsDen, value, zpow_negSucc]
    push_cast
    ring

theorem value_eq_zero_iff {decimal : Decimal} : decimal.value = 0 ↔ decimal.coefficient = 0 := by
  simp [value, zpow_ne_zero]

/-- A power of ten moves from the coefficient to the exponent. -/
theorem value_scale (coefficient count : Nat) (exponent : Int) :
    value ⟨10 ^ count * coefficient, exponent⟩ = value ⟨coefficient, exponent + count⟩ := by
  simp only [value]
  rw [zpow_add₀ (by norm_num), zpow_natCast]
  push_cast
  ring

/-- Decimals of equal value are the same quotient of units. -/
theorem unitsNum_mul_unitsDen {left right : Decimal} (equal : left.value = right.value) :
    left.unitsNum * right.unitsDen = right.unitsNum * left.unitsDen := by
  have quotients : (left.unitsNum / left.unitsDen : ℚ) = right.unitsNum / right.unitsDen := by
    rw [unitsNum_div_unitsDen, unitsNum_div_unitsDen, equal]
  have leftNonzero : (left.unitsDen : ℚ) ≠ 0 := Nat.cast_ne_zero.mpr left.unitsDen_pos.ne'
  have rightNonzero : (right.unitsDen : ℚ) ≠ 0 := Nat.cast_ne_zero.mpr right.unitsDen_pos.ne'
  exact_mod_cast (div_eq_div_iff leftNonzero rightNonzero).mp quotients

private theorem two_pow_le_ten_pow (exponent : Nat) : 2 ^ (3 * exponent) ≤ 10 ^ exponent := by
  calc 2 ^ (3 * exponent) = 8 ^ exponent := Nat.pow_mul 2 3 exponent
    _ ≤ 10 ^ exponent := Nat.pow_le_pow_left (by decide) exponent

/-- A decimal with an exponent above the cut exceeds every double. -/
private theorem large_unitsNum {decimal : Decimal} (nonzero : decimal.coefficient ≠ 0)
    (above : 400 < decimal.exponent) : 2 ^ 2098 ≤ decimal.unitsNum ∧ decimal.unitsDen = 1 := by
  obtain ⟨coefficient, exponent | exponent⟩ := decimal
  · refine ⟨?_, rfl⟩
    have wide : 2 ^ 2098 ≤ 2 ^ (3 * exponent + 1074) := by
      change (400 : Int) < (exponent : Int) at above
      rw [Nat.pow_le_pow_iff_right (by decide)]
      omega
    refine wide.trans ?_
    calc 2 ^ (3 * exponent + 1074) = 1 * 2 ^ (3 * exponent) * unitsPerOne := by
          rw [Nat.pow_add, Nat.one_mul, unitsPerOne]
      _ ≤ coefficient * 10 ^ exponent * unitsPerOne :=
          Nat.mul_le_mul_right _
            (Nat.mul_le_mul (Nat.one_le_iff_ne_zero.mpr nonzero) (two_pow_le_ten_pow exponent))
  · exact absurd above (Int.not_lt.mpr ((Int.negSucc_lt_zero exponent).le.trans (by decide)))

/-- A decimal with a leading exponent below the cut is less than half a unit. -/
private theorem small_unitsNum {decimal : Decimal}
    (below : decimal.exponent + (decimal.coefficient.log2 + 1) < -400) :
    2 * decimal.unitsNum < decimal.unitsDen := by
  obtain ⟨coefficient, exponent | exponent⟩ := decimal
  · simp only [Int.ofNat_eq_natCast] at below
    omega
  · have long : coefficient.log2 + 401 ≤ exponent := by
      simp only [Int.negSucc_eq] at below
      omega
    calc 2 * (coefficient * unitsPerOne)
        < 2 * (2 ^ (coefficient.log2 + 1) * unitsPerOne) :=
          Nat.mul_lt_mul_of_pos_left
            (Nat.mul_lt_mul_of_pos_right Nat.lt_log2_self unitsPerOne_pos) Nat.two_pos
      _ = 2 ^ (coefficient.log2 + 1 + 1074 + 1) := by
          rw [Nat.pow_succ 2 (_ + 1074), Nat.pow_add 2 _ 1074, unitsPerOne, Nat.mul_comm]
      _ ≤ 2 ^ (3 * (exponent + 1)) := Nat.pow_le_pow_right Nat.two_pos (by omega)
      _ ≤ 10 ^ (exponent + 1) := two_pow_le_ten_pow (exponent + 1)

end Decimal

namespace Binary64

open Decimal

variable (negative : Bool)

/-- Reading a decimal is rounding its exact value, also where its size alone settles the answer. -/
theorem ofDecimal_eq_ofQuotient {decimal : Decimal} (nonzero : decimal.coefficient ≠ 0) :
    ofDecimal negative decimal = ofQuotient negative decimal.unitsNum decimal.unitsDen := by
  unfold ofDecimal
  rw [if_neg nonzero]
  by_cases above : 400 < decimal.exponent
  · obtain ⟨large, whole⟩ := large_unitsNum nonzero above
    rw [if_pos above, whole, ofQuotient, dif_neg (not_representable_of_large large)]
  rw [if_neg above]
  by_cases below : decimal.exponent + (decimal.coefficient.log2 + 1) < -400
  · rw [if_pos below, ofQuotient]
    simp only [roundUnits_small (small_unitsNum below), dif_pos representable_zero, zero]
  rw [if_neg below]
  obtain ⟨coefficient, exponent | exponent⟩ := decimal
  · rfl
  · rfl

/-- Decimals of equal value are read as the same double. -/
theorem ofDecimal_congr {left right : Decimal} (equal : left.value = right.value) :
    ofDecimal negative left = ofDecimal negative right := by
  by_cases vanishes : left.coefficient = 0
  · have rightVanishes : right.coefficient = 0 :=
      value_eq_zero_iff.mp (equal ▸ value_eq_zero_iff.mpr vanishes)
    simp only [ofDecimal, if_pos vanishes, if_pos rightVanishes]
  · have rightNonzero : right.coefficient ≠ 0 := fun zero =>
      vanishes (value_eq_zero_iff.mp (equal.trans (value_eq_zero_iff.mpr zero)))
    have rounded : roundUnits left.unitsNum left.unitsDen = roundUnits right.unitsNum right.unitsDen :=
      roundUnits_congr left.unitsDen_pos right.unitsDen_pos (unitsNum_mul_unitsDen equal)
    simp only [ofDecimal_eq_ofQuotient _ vanishes, ofDecimal_eq_ofQuotient _ rightNonzero, ofQuotient,
      rounded]

theorem ofQuotient_of_representable {units den : Nat} (representable : Representable units)
    (positive : 0 < den) :
    ofQuotient negative (units * den) den = .finite negative units representable := by
  have whole := roundUnits_of_representable representable positive
  simp only [ofQuotient, whole, dif_pos representable]

/-- The exact expansion of a count that a double can hold reads as that double. -/
theorem ofDecimal_ofUnits {units : Nat} (representable : Representable units) :
    ofDecimal negative (Decimal.ofUnits units) = .finite negative units representable := by
  by_cases vanishes : units = 0
  · subst vanishes
    simp only [ofDecimal, Decimal.ofUnits, Nat.zero_mul, if_true, zero]
  have nonzero : (Decimal.ofUnits units).coefficient ≠ 0 :=
    Nat.mul_ne_zero vanishes (by positivity)
  have tens (exponent : Nat) : units * 5 ^ exponent * 2 ^ exponent = units * 10 ^ exponent := by
    rw [Nat.mul_assoc, ← Nat.mul_pow]
  rw [ofDecimal_eq_ofQuotient negative nonzero]
  change ofQuotient negative (units * 5 ^ 1074 * unitsPerOne) (10 ^ 1074) = _
  rw [unitsPerOne, tens]
  have positive : 0 < 10 ^ 1074 := by positivity
  exact ofQuotient_of_representable negative representable positive

end Binary64

namespace Decimal

/-- A search on the grids returns only what it accepts. -/
theorem accepts_of_coarsest? {accept : Decimal → Bool} {units grids : Nat} {exponent : Int}
    {decimal : Decimal} (found : coarsest? accept units grids exponent = some decimal) :
    accept decimal = true := by
  induction grids generalizing exponent with
  | zero => cases found
  | succ grids ih =>
    unfold coarsest? at found
    split at found
    · next candidate chosen =>
      cases found
      exact List.find?_some chosen
    · exact ih found

/-- The decimal that is chosen to write a double reads back as that double. -/
theorem ofDecimal_shortest {units : Nat} (representable : Representable units) :
    Binary64.ofDecimal false (shortest units) = .finite false units representable := by
  unfold shortest
  rw [dif_pos representable]
  dsimp only
  cases found : coarsest? (fun decimal => decide (Binary64.ofDecimal false decimal
      = .finite false units representable)) units 20 (leadingExponent units) with
  | none => exact Binary64.ofDecimal_ofUnits false representable
  | some decimal => exact of_decide_eq_true (accepts_of_coarsest? found)

/-- Dropping zeros at the end of the coefficient keeps the number. -/
theorem value_trimZeros (fuel : Nat) (decimal : Decimal) :
    (trimZeros fuel decimal).value = decimal.value := by
  induction fuel generalizing decimal with
  | zero => rfl
  | succ fuel ih =>
    unfold trimZeros
    split
    · next even =>
      have tens : decimal.coefficient / 10 * 10 = decimal.coefficient :=
        Nat.div_mul_cancel (Nat.dvd_of_mod_eq_zero even.2)
      rw [ih]
      calc value ⟨decimal.coefficient / 10, decimal.exponent + (1 : Nat)⟩
          = value ⟨10 ^ 1 * (decimal.coefficient / 10), decimal.exponent⟩ := (value_scale _ 1 _).symm
        _ = decimal.value := by rw [Nat.pow_one, Nat.mul_comm, tens]
    · rfl

end Decimal

/-! ## Whole numbers as doubles -/

theorem two_pow_mul_unitsPerOne (bits : Nat) : 2 ^ bits * unitsPerOne = 2 ^ (bits + 1074) := by
  rw [unitsPerOne, Nat.pow_add]

theorem unitsPerOne_ne_zero : (unitsPerOne : Int) ≠ 0 := Int.natCast_ne_zero.mpr unitsPerOne_pos.ne'

namespace Binary64

theorem natAbs_signedUnits (negative : Bool) (units : Nat) : (signedUnits negative units).natAbs = units := by
  cases negative <;> simp [signedUnits]

theorem signedUnits_natAbs (n : Int) : signedUnits (decide (n < 0)) n.natAbs = n := by
  simp only [signedUnits, decide_eq_true_eq]
  split <;> omega

theorem eq_of_signedUnits_eq {negative : Bool} {units n : Nat}
    (same : signedUnits negative units = n * (unitsPerOne : Int)) : units = n * unitsPerOne := by
  rw [← natAbs_signedUnits negative units, same, Int.natAbs_mul, Int.natAbs_natCast, Int.natAbs_natCast]

theorem signedUnits_mul (negative : Bool) (count factor : Nat) :
    signedUnits negative (count * factor) = signedUnits negative count * (factor : Int) := by
  cases negative <;> simp [signedUnits]

theorem ofInt_of_representable {n : Nat} (representable : Representable (n * unitsPerOne)) :
    ofInt n = .finite (decide ((n : Int) * unitsPerOne < 0)) (n * unitsPerOne) representable := by
  have units : ((n : Int) * unitsPerOne).natAbs = n * unitsPerOne := by
    rw [Int.natAbs_mul, Int.natAbs_natCast, Int.natAbs_natCast]
  rw [ofInt, ofUnits, units, ← ofQuotient_of_representable _ representable Nat.one_pos, Nat.mul_one]

theorem isSome_ofInt?_of_finite {n : Int} {negative : Bool} {units : Nat} {representable : Representable units}
    (finite : ofInt n = .finite negative units representable) : (ofInt? n).isSome = true := by
  unfold ofInt?
  rw [finite]
  rfl

end Binary64

end TreeScript
