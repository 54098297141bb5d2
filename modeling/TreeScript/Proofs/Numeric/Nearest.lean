import Mathlib.Algebra.Order.Field.Basic
import Mathlib.Data.Nat.Cast.Order.Field
import Mathlib.Tactic.Linarith
import TreeScript.Proofs.Numeric.Rounding

/-! # How far rounding goes

Rounding moves a quotient by at most half the spacing of the doubles around it, so its relative error is at
most `2 ^ -53` unless the quotient is tiny. What is rounded is a count that a double can hold, unless it lies
beyond the largest double.
-/

namespace TreeScript

/-- The distance between neighbouring doubles of about the given magnitude, in units. -/
def spacing (units : Nat) : Nat := 2 ^ (units.log2 - 52)

theorem spacing_pos (units : Nat) : 0 < spacing units := Nat.two_pow_pos _

theorem roundUnits_eq (num den : Nat) :
    roundUnits num den = nearestEven num (den * spacing (num / den)) * spacing (num / den) := rfl

/-! ## The error -/

theorem nearestEven_mul_bounds {den : Nat} (positive : 0 < den) (num : Nat) :
    2 * num ≤ 2 * (nearestEven num den * den) + den ∧ 2 * (nearestEven num den * den) ≤ 2 * num + den := by
  have whole : num / den * den + num % den = num := Nat.div_add_mod' num den
  have proper : num % den < den := Nat.mod_lt num positive
  unfold nearestEven
  dsimp only
  split
  · omega
  · split
    · have next : (num / den + 1) * den = num / den * den + den := Nat.add_one_mul _ _
      omega
    · rw [Nat.add_mul]
      rcases Nat.mod_two_eq_zero_or_one (num / den) with even | odd
      · rw [even]
        omega
      · rw [odd]
        omega

/-- Rounding goes no further than half the distance to a neighbour. -/
theorem abs_roundUnits_sub_le {den : Nat} (positive : 0 < den) (num : Nat) :
    |(roundUnits num den : ℚ) - num / den| ≤ spacing (num / den) / 2 := by
  have positive' : (0 : ℚ) < den := Nat.cast_pos.mpr positive
  obtain ⟨above, below⟩ := nearestEven_mul_bounds (Nat.mul_pos positive (spacing_pos (num / den))) num
  have product : nearestEven num (den * spacing (num / den)) * (den * spacing (num / den)) =
      roundUnits num den * den := by
    rw [roundUnits_eq]
    ring
  rw [product] at above below
  have above' : 2 * (num : ℚ) ≤ 2 * (roundUnits num den * den) + den * spacing (num / den) := by exact_mod_cast above
  have below' : 2 * ((roundUnits num den : ℚ) * den) ≤ 2 * num + den * spacing (num / den) := by exact_mod_cast below
  rw [abs_le]
  constructor
  · rw [neg_le_sub_iff_le_add, div_le_iff₀ positive']
    linarith
  · rw [sub_le_comm, le_div_iff₀ positive']
    linarith

/-- The spacing is one unit, or small when compared to the magnitude. -/
theorem spacing_le (units : Nat) : (spacing units : ℚ) ≤ max 1 ((units : ℚ) / 2 ^ 52) := by
  unfold spacing
  by_cases wide : 52 ≤ units.log2
  · have nonzero : units ≠ 0 := by
      rintro rfl
      simp at wide
    have bounded : 2 ^ (units.log2 - 52) * 2 ^ 52 ≤ units := by
      rw [← Nat.pow_add, Nat.sub_add_cancel wide]
      exact Nat.log2_self_le nonzero
    refine le_max_of_le_right ?_
    rw [le_div_iff₀ (by positivity)]
    exact_mod_cast bounded
  · rw [Nat.sub_eq_zero_of_le (Nat.le_of_not_le wide), Nat.pow_zero]
    exact le_max_of_le_left Nat.cast_one.le

theorem abs_roundUnits_sub_le_max {den : Nat} (positive : 0 < den) (num : Nat) :
    |(roundUnits num den : ℚ) - num / den| ≤ max 1 ((num : ℚ) / den / 2 ^ 52) / 2 := by
  refine (abs_roundUnits_sub_le positive num).trans ?_
  have floored : ((num / den : Nat) : ℚ) ≤ num / den := Nat.cast_div_le
  gcongr
  refine (spacing_le _).trans ?_
  gcongr

/-! ## The result -/

theorem nearestEven_le (num den : Nat) : nearestEven num den ≤ num / den + 1 := by
  unfold nearestEven
  dsimp only
  split
  · omega
  · split <;> omega

/-- A count of at most 53 bits, shifted, is on the grid of the doubles around it. -/
theorem spacing_dvd_shifted {mantissa : Nat} (short : mantissa ≤ 2 ^ 53) (shift : Nat) :
    spacing (mantissa * 2 ^ shift) ∣ mantissa * 2 ^ shift := by
  rcases Nat.lt_or_eq_of_le short with shorter | rfl
  · refine Dvd.dvd.mul_left (Nat.pow_dvd_pow 2 ?_) mantissa
    rcases Nat.eq_zero_or_pos mantissa with rfl | positive
    · simp
    · have bounded : mantissa * 2 ^ shift < 2 ^ (53 + shift) := by
        rw [Nat.pow_add]
        exact Nat.mul_lt_mul_of_pos_right shorter (Nat.two_pow_pos shift)
      have nonzero : mantissa * 2 ^ shift ≠ 0 := Nat.mul_ne_zero positive.ne' (Nat.two_pow_pos shift).ne'
      have bits := (Nat.log2_lt nonzero).mpr bounded
      omega
  · rw [← Nat.pow_add, spacing, Nat.log2_two_pow]
    exact Nat.pow_dvd_pow 2 (by omega)

theorem spacing_dvd_roundUnits (num den : Nat) : spacing (roundUnits num den) ∣ roundUnits num den := by
  refine spacing_dvd_shifted ?_ ((num / den).log2 - 52)
  have mantissa : num / den / spacing (num / den) < 2 ^ 53 := by
    rw [Nat.div_lt_iff_lt_mul (spacing_pos _), spacing, ← Nat.pow_add]
    exact Nat.lt_log2_self.trans_le (Nat.pow_le_pow_right Nat.two_pos (by omega))
  have rounded := nearestEven_le num (den * spacing (num / den))
  rw [← Nat.div_div_eq_div_mul] at rounded
  exact rounded.trans mantissa

/-- Rounding gives a count that a double can hold, unless it is beyond all doubles. -/
theorem representable_roundUnits {num den : Nat} (small : roundUnits num den < 2 ^ 2098) :
    Representable (roundUnits num den) :=
  And.intro small (Nat.mod_eq_zero_of_dvd (spacing_dvd_roundUnits num den))

/-- Whole numbers of at most 53 bits are doubles. -/
theorem representable_whole {n : Nat} (short : n ≤ 2 ^ 53) : Representable (n * unitsPerOne) := by
  refine And.intro ?_ (Nat.mod_eq_zero_of_dvd (spacing_dvd_shifted short 1074))
  calc n * unitsPerOne ≤ 2 ^ 53 * unitsPerOne := Nat.mul_le_mul_right _ short
    _ = 2 ^ (53 + 1074) := two_pow_mul_unitsPerOne 53
    _ < 2 ^ 2098 := Nat.pow_lt_pow_right Nat.one_lt_two (by omega)

end TreeScript
