import Mathlib.Data.Rat.Floor
import Mathlib.Tactic.FieldSimp
import TreeScript.Operator.Apply
import TreeScript.Proofs.Numeric.Nearest

/-! # The floor of a rounded quotient

A floor division goes through a double: the quotient is rounded first. As long as the dividend and the
divisor have at most 53 bits, a quotient that is not whole is further from the next whole number than
rounding can take it, and a whole quotient is a double. So the floor of the rounded quotient is the floor of
the quotient. Beyond 53 bits it need not be, neither for the dividend nor for the divisor.
-/

namespace TreeScript

/-- What is nearer to a fraction than the next fraction with the same denominator is between the same whole
numbers. -/
theorem floor_eq_of_abs_sub_lt {x : ℚ} {num : Int} {den : Nat} (positive : 0 < den) (broken : ¬(den : Int) ∣ num)
    (near : |x - num / den| < 1 / den) : ⌊x⌋ = ⌊(num / den : ℚ)⌋ := by
  have positive' : (0 : ℚ) < den := Nat.cast_pos.mpr positive
  have whole : (den : Int) * (num / den) + num % den = num := Int.mul_ediv_add_emod num den
  have rest : 0 < num % den := (Int.emod_pos_of_not_dvd broken).resolve_left (Int.natCast_ne_zero.mpr positive.ne')
  have proper : num % den < den := Int.emod_lt_of_pos num (Int.natCast_pos.mpr positive)
  have below : (den * (num / den : Int) : ℚ) ≤ num - 1 := by
    have previous : (den : Int) * (num / den) ≤ num - 1 := by omega
    exact_mod_cast previous
  have above : (num + 1 : ℚ) ≤ den * ((num / den : Int) + 1) := by
    have next : num + 1 ≤ (den : Int) * (num / den + 1) := by
      rw [Int.mul_add, Int.mul_one]
      omega
    exact_mod_cast next
  obtain ⟨lower, upper⟩ := abs_lt.mp near
  rw [Rat.floor_intCast_div_natCast, Int.floor_eq_iff]
  constructor
  · have least : ((num / den : Int) : ℚ) ≤ num / den - 1 / den := by
      rw [← sub_div, le_div_iff₀ positive', mul_comm]
      exact below
    linarith
  · have greatest : (num / den : ℚ) + 1 / den ≤ (num / den : Int) + 1 := by
      rw [← add_div, div_le_iff₀ positive', mul_comm]
      exact above
    linarith

/-! ## The rounded quotient -/

/-- A quotient of numbers with at most 53 bits, given on a scale that is fine enough, is moved by less than the
reciprocal of the divisor. -/
theorem abs_roundUnits_div_sub_lt {num den scale : Nat} (fine : 2 ^ 105 ≤ scale) (dividend : 0 < num)
    (shortDividend : num < 2 ^ 53) (divisor : 0 < den) (shortDivisor : den < 2 ^ 53) :
    |(roundUnits (num * scale) den / scale : ℚ) - num / den| < 1 / den := by
  have scaled : (0 : ℚ) < scale := Nat.cast_pos.mpr ((Nat.two_pow_pos 105).trans_le fine)
  have divisor' : (0 : ℚ) < den := Nat.cast_pos.mpr divisor
  have shortDividend' : (num : ℚ) < 2 ^ 53 := by exact_mod_cast shortDividend
  -- The quotient is far above the least doubles, so the error is relative.
  have normal : (1 : ℚ) ≤ (num * scale : Nat) / den / 2 ^ 52 := by
    have large : den * 2 ^ 52 ≤ num * scale :=
      calc den * 2 ^ 52 ≤ 2 ^ 53 * 2 ^ 52 := Nat.mul_le_mul_right _ shortDivisor.le
        _ ≤ scale := fine
        _ ≤ num * scale := Nat.le_mul_of_pos_left _ dividend
    rw [div_div, one_le_div (by positivity)]
    exact_mod_cast large
  have error := abs_roundUnits_sub_le_max divisor (num * scale)
  rw [max_eq_right normal] at error
  have unscaled : ((num * scale : Nat) / den : ℚ) / scale = num / den := by
    rw [Nat.cast_mul]
    field_simp
  calc |(roundUnits (num * scale) den / scale : ℚ) - num / den|
      = |(roundUnits (num * scale) den : ℚ) - (num * scale : Nat) / den| / scale := by
        rw [← unscaled, ← sub_div, abs_div, abs_of_pos scaled]
    _ ≤ (num * scale : Nat) / den / 2 ^ 52 / 2 / scale := div_le_div_of_nonneg_right error scaled.le
    _ = num / 2 ^ 53 * (1 / den) := by
        rw [div_right_comm, div_right_comm _ _ (scale : ℚ), unscaled]
        ring
    _ < 1 / den := by
        refine mul_lt_of_lt_one_left (by positivity) ?_
        rwa [div_lt_one (by positivity)]

theorem fine_unitsPerOne : 2 ^ 105 ≤ unitsPerOne := Nat.pow_le_pow_right Nat.two_pos (by omega)

/-- Such a quotient is far from the largest doubles. -/
theorem representable_quotient {num den : Nat} (dividend : 0 < num) (shortDividend : num < 2 ^ 53) (divisor : 0 < den)
    (shortDivisor : den < 2 ^ 53) : Representable (roundUnits (num * unitsPerOne) den) := by
  have one : (0 : ℚ) < unitsPerOne := Nat.cast_pos.mpr unitsPerOne_pos
  have divisor' : (0 : ℚ) < den := Nat.cast_pos.mpr divisor
  have near := abs_roundUnits_div_sub_lt fine_unitsPerOne dividend shortDividend divisor shortDivisor
  have bounded : ((num : ℚ) + 1) / den ≤ 2 ^ 53 := by
    have atMost : (num : ℚ) + 1 ≤ 2 ^ 53 := by exact_mod_cast shortDividend
    exact (div_le_self (by positivity) (Nat.one_le_cast.mpr divisor)).trans atMost
  have below : (roundUnits (num * unitsPerOne) den : ℚ) < 2 ^ 53 * unitsPerOne := by
    rw [← div_lt_iff₀ one]
    rw [add_div] at bounded
    linarith [(abs_lt.mp near).2]
  refine representable_roundUnits ?_
  calc roundUnits (num * unitsPerOne) den < 2 ^ 53 * unitsPerOne := by exact_mod_cast below
    _ = 2 ^ (53 + 1074) := two_pow_mul_unitsPerOne 53
    _ < 2 ^ 2098 := Nat.pow_lt_pow_right Nat.one_lt_two (by omega)

namespace Binary64

theorem floor?_finite (negative : Bool) {units : Nat} (representable : Representable units) :
    (finite negative units representable).floor? = some ⌊(signedUnits negative units / unitsPerOne : ℚ)⌋ := by
  rw [Rat.floor_intCast_div_natCast, floor?, Int.fdiv_eq_ediv_of_nonneg _ (Int.natCast_nonneg _)]

theorem signedUnits_div (leftNegative rightNegative : Bool) (left right : Nat) :
    (signedUnits leftNegative left / signedUnits rightNegative right : ℚ) =
      signedUnits (leftNegative != rightNegative) left / right := by
  cases leftNegative <;> cases rightNegative <;> simp [signedUnits, neg_div, div_neg]

theorem abs_signedUnits_div_sub (negative : Bool) (units num : Nat) (scale den : ℚ) :
    |(signedUnits negative units / scale : ℚ) - signedUnits negative num / den| = |units / scale - num / den| := by
  cases negative with
  | false => simp [signedUnits]
  | true =>
    rw [← abs_neg]
    simp [signedUnits, neg_div, add_comm, sub_eq_add_neg]

theorem floor?_ofRatio {num den : Int} (nonzero : den ≠ 0) (shortDividend : num.natAbs < 2 ^ 53)
    (shortDivisor : den.natAbs < 2 ^ 53) : (ofRatio num den).floor? = some ⌊(num / den : ℚ)⌋ := by
  have divisor : 0 < den.natAbs := Int.natAbs_pos.mpr nonzero
  have signs : (num / den : ℚ) = signedUnits (decide (num < 0) != decide (den < 0)) num.natAbs / den.natAbs := by
    rw [← signedUnits_div, signedUnits_natAbs, signedUnits_natAbs]
  rw [signs, ofRatio]
  generalize (decide (num < 0) != decide (den < 0)) = negative
  by_cases divides : den.natAbs ∣ num.natAbs
  · obtain ⟨quotient, same⟩ := divides
    have short : quotient ≤ 2 ^ 53 := (Nat.le_mul_of_pos_left quotient divisor).trans (same ▸ shortDividend.le)
    have whole : num.natAbs * unitsPerOne = quotient * unitsPerOne * den.natAbs := by
      rw [same]
      ring
    have value : (signedUnits negative (quotient * unitsPerOne) / unitsPerOne : ℚ) =
        signedUnits negative num.natAbs / den.natAbs := by
      have divisor' : (den.natAbs : ℚ) ≠ 0 := Nat.cast_ne_zero.mpr divisor.ne'
      have one : (unitsPerOne : ℚ) ≠ 0 := Nat.cast_ne_zero.mpr unitsPerOne_pos.ne'
      rw [same, Nat.mul_comm den.natAbs, signedUnits_mul, signedUnits_mul, Int.cast_mul, Int.cast_mul,
        Int.cast_natCast, Int.cast_natCast, mul_div_cancel_right₀ _ divisor', mul_div_cancel_right₀ _ one]
    rw [whole, ofQuotient_of_representable negative (representable_whole short) divisor, floor?_finite, value]
  · have dividend : 0 < num.natAbs := Nat.pos_of_ne_zero fun zero => divides (zero ▸ Nat.dvd_zero _)
    have fits := representable_quotient dividend shortDividend divisor shortDivisor
    have near := abs_roundUnits_div_sub_lt fine_unitsPerOne dividend shortDividend divisor shortDivisor
    rw [← abs_signedUnits_div_sub negative] at near
    simp only [ofQuotient, dif_pos fits, floor?_finite]
    refine congrArg some (floor_eq_of_abs_sub_lt divisor ?_ near)
    rw [Int.natCast_dvd]
    cases negative <;> simpa [signedUnits] using divides

end Binary64

/-! ## The operator -/

theorem Binary64.isInfinite_of_floor? {double : Binary64} {n : Int} (floored : double.floor? = some n) :
    double.isInfinite = false := by
  cases double with
  | infinite negative => cases floored
  | nan | finite => rfl

theorem Number.finiteQuotient_eq {quotient : Binary64} (finite : quotient.isInfinite = false) :
    finiteQuotient quotient = .ok quotient := by
  cases quotient with
  | infinite negative => cases finite
  | nan | finite => rfl

theorem Number.divide_int_int {num den : Int} (nonzero : den ≠ 0)
    (finite : (Binary64.ofRatio num den).isInfinite = false) :
    (Number.int num).divide (.int den) = .ok (Binary64.ofRatio num den) := by
  have proper : ¬(Number.int den).isZero = true := fun zero => nonzero (eq_of_beq zero)
  unfold Number.divide
  rw [if_neg proper, combine_int_int]
  exact finiteQuotient_eq finite

theorem Number.floorDivide_of_divide {left right : Number} {double : Binary64} {quotient : Int}
    (divided : left.divide right = .ok double) (floored : double.floor? = some quotient) :
    left.floorDivide right = .ok (.int quotient) := by
  unfold Number.floorDivide
  rw [divided]
  change Except.ok _ = _
  rw [floored]

namespace Operator

/-- A floor division of integers is the floor of their rounded quotient, if that is finite. -/
theorem apply_floorDivide {num den quotient : Int} (nonzero : den ≠ 0)
    (floored : (Binary64.ofRatio num den).floor? = some quotient) (host : Host) (store : Store) :
    floorDivide.apply (.int num) (.int den) host store = .done (.int quotient) store := by
  have whole : floorDivide.calculate (.int num) (.int den) = .ok (.int quotient) :=
    Number.floorDivide_of_divide (Number.divide_int_int nonzero (Binary64.isInfinite_of_floor? floored)) floored
  exact apply_of_calculate rfl whole host store

/-- Floor division is exact if both operands have at most 53 bits. If one of them has more, it can give a
different integer, whatever the other one is like. -/
theorem floorDivide_exact_in_safe_range :
    (∀ num den : Int, den ≠ 0 → |num| < 2 ^ 53 → |den| < 2 ^ 53 → ∀ host store,
      floorDivide.apply (.int num) (.int den) host store = .done (.int ⌊(num / den : ℚ)⌋) store) ∧
    (∃ num den other : Int, den ≠ 0 ∧ |den| < 2 ^ 53 ∧ other ≠ ⌊(num / den : ℚ)⌋ ∧ ∀ host store,
      floorDivide.apply (.int num) (.int den) host store = .done (.int other) store) ∧
    ∃ num den other : Int, den ≠ 0 ∧ |num| < 2 ^ 53 ∧ other ≠ ⌊(num / den : ℚ)⌋ ∧ ∀ host store,
      floorDivide.apply (.int num) (.int den) host store = .done (.int other) store := by
  refine ⟨?_, ⟨2 ^ 53 + 1, 1, 2 ^ 53, ?_, ?_, ?_, ?_⟩, ⟨-1, 2 ^ 1200, 0, ?_, ?_, ?_, ?_⟩⟩
  · intro num den nonzero shortDividend shortDivisor
    rw [Int.abs_eq_natAbs] at shortDividend shortDivisor
    exact apply_floorDivide nonzero
      (Binary64.floor?_ofRatio nonzero (by exact_mod_cast shortDividend) (by exact_mod_cast shortDivisor))
  · decide
  · decide
  · rw [Int.cast_one, div_one, Int.floor_intCast]
    decide
  · exact apply_floorDivide (by decide) (by decide +kernel)
  · decide +kernel
  · decide
  · have negative : ((-1 : Int) : ℚ) / ((2 ^ 1200 : Int) : ℚ) < 0 :=
      div_neg_of_neg_of_pos (by norm_num) (Int.cast_pos.mpr (by positivity))
    exact (Int.floor_lt.mpr (by exact_mod_cast negative)).ne'
  · exact apply_floorDivide (by decide +kernel) (by decide +kernel)

/-- The quotient of neighbours at the end of the range is just above one, and rounded still is not one. -/
theorem floorDivide_exact_at_end_of_safe_range :
    ((2 : Int) - 2 ^ 53 ≠ 0 ∧ |(2 : Int) ^ 53 - 1| < 2 ^ 53 ∧ |(2 : Int) - 2 ^ 53| < 2 ^ 53) ∧ ∀ host store,
      floorDivide.apply (.int (2 ^ 53 - 1)) (.int (2 - 2 ^ 53)) host store = .done (.int (-2)) store := by
  refine ⟨by decide, fun host store => ?_⟩
  rw [floorDivide_exact_in_safe_range.1 (2 ^ 53 - 1) (2 - 2 ^ 53) (by decide) (by decide) (by decide)]
  have floored : ⌊(((2 ^ 53 - 1 : Int) : ℚ) / ((2 - 2 ^ 53 : Int) : ℚ))⌋ = -2 := by
    rw [Int.floor_eq_iff]
    norm_num
  rw [floored]

end Operator

end TreeScript
