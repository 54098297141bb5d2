import Mathlib.Algebra.Order.Field.Power
import TreeScript.Proofs.Numeric.Comparison
import TreeScript.Proofs.Numeric.Nearest

/-! # Signs and sizes of powers

A power of an integer with a natural exponent is exact. Every other power is a power of the doubles that
stand for base and exponent, and there three things happen. An odd exponent beyond `2 ^ 53` is rounded to an
even one. A base beyond the doubles makes the power infinite, also where the power is tiny. And an infinite
power is positive, whatever the sign of the base. Outside these cases a power has the sign that it should
have, and a number greater than one has finite powers for negative exponents.

The powers of positive doubles are the platform's. All that is asked of them here is that whole exponents
give answers which are right up to a unit in the last place.
-/

namespace TreeScript

-- No proof here evaluates the scale.
attribute [local irreducible] unitsPerOne

namespace Binary64

/-- An answer for a positive number that is at most a unit in the last place away from it; only at the end of
the doubles it may be infinite. -/
inductive IsNear (meant : ℚ) : Binary64 → Prop
  | infinite (beyond : 2 ^ 1024 ≤ meant * (1 + 1 / 2 ^ 52)) : IsNear meant (infinite false)
  | finite {units : Nat} {representable : Representable units}
      (near : |units - meant * unitsPerOne| ≤ max 1 (meant * unitsPerOne / 2 ^ 52)) :
      IsNear meant (finite false units representable)

/-- A double that is the given whole number. -/
inductive IsWhole (n : Int) : Binary64 → Prop
  | intro {negative : Bool} {units : Nat} {representable : Representable units}
      (same : signedUnits negative units = n * unitsPerOne) : IsWhole n (finite negative units representable)

/-- Powers of positive doubles that are right up to a unit in the last place if the exponent is whole. -/
def IsAccurate (ofPositive : Binary64 → Binary64 → Binary64) : Prop :=
  ∀ (units : Nat) (representable : Representable units) (exponent : Binary64) (n : Int), 0 < units →
    exponent.IsWhole n →
      (ofPositive (finite false units representable) exponent).IsNear ((units / unitsPerOne : ℚ) ^ n)

theorem two_pow_le_range : (2 ^ 53 : ℚ) ≤ 2 ^ 1024 * unitsPerOne :=
  calc (2 ^ 53 : ℚ) ≤ 2 ^ 1024 := pow_le_pow_right₀ one_le_two (by omega)
    _ ≤ 2 ^ 1024 * unitsPerOne := le_mul_of_one_le_right (by positivity) (Nat.one_le_cast.mpr unitsPerOne_pos)

/-- A finite answer is given only before the end of the doubles. -/
theorem lt_of_near {meant : ℚ} {units : Nat} (representable : Representable units)
    (near : |units - meant * unitsPerOne| ≤ max 1 (meant * unitsPerOne / 2 ^ 52)) :
    meant * (1 - 1 / 2 ^ 52) < 2 ^ 1024 := by
  have one : (0 : ℚ) < unitsPerOne := Nat.cast_pos.mpr unitsPerOne_pos
  have below : (units : ℚ) < 2 ^ 1024 * unitsPerOne := by
    have range : 2 ^ 1024 * unitsPerOne = 2 ^ 2098 := two_pow_mul_unitsPerOne 1024
    exact_mod_cast representable.1.trans_eq range.symm
  have wide := two_pow_le_range
  have lower := (abs_le.mp near).1
  refine lt_of_mul_lt_mul_right ?_ one.le
  generalize (unitsPerOne : ℚ) = scale at *
  generalize (2 ^ 1024 : ℚ) = limit at *
  rcases le_total 1 (meant * scale / 2 ^ 52) with normal | tiny
  · rw [max_eq_right normal] at lower
    linarith
  · rw [div_le_one (by positivity)] at tiny
    linarith

theorem not_beyond_of_neg {units : Nat} {n : Int} (greater : unitsPerOne < units) (below : n < 0) :
    ¬2 ^ 1024 ≤ (units / unitsPerOne : ℚ) ^ n * (1 + 1 / 2 ^ 52) := by
  have one : (0 : ℚ) < unitsPerOne := Nat.cast_pos.mpr unitsPerOne_pos
  have small : (units / unitsPerOne : ℚ) ^ n < 1 :=
    zpow_lt_one_of_neg₀ ((one_lt_div one).mpr (Nat.cast_lt.mpr greater)) below
  have range : (2 : ℚ) ≤ 2 ^ 1024 := le_self_pow₀ one_le_two (by omega)
  have bounded : (units / unitsPerOne : ℚ) ^ n * (1 + 1 / 2 ^ 52) < 2 := by linarith
  exact (bounded.trans_le range).not_ge

theorem isNear_one : one.IsNear 1 := by
  have fits : Representable (1 * unitsPerOne) := representable_whole Nat.one_le_two_pow
  have nonnegative : (0 : Int) ≤ (1 : Nat) * (unitsPerOne : Int) := by positivity
  have whole : one = finite _ _ fits := ofInt_of_representable fits
  rw [whole, decide_eq_false nonnegative.not_gt]
  refine .finite ?_
  rw [Nat.one_mul, one_mul, sub_self, abs_zero]
  exact le_max_of_le_left zero_le_one

/-! ## Powers of doubles -/

section Doubles

variable {negative : Bool} {units : Nat} {representable : Representable units} {n : Int} {exponent : Binary64}

theorem IsWhole.units_eq (whole : (finite negative units representable).IsWhole n) :
    units = n.natAbs * unitsPerOne := by
  obtain ⟨same⟩ := whole
  have magnitude := congrArg Int.natAbs same
  rwa [natAbs_signedUnits, Int.natAbs_mul, Int.natAbs_natCast] at magnitude

theorem IsWhole.isInteger (whole : exponent.IsWhole n) : exponent.isInteger = true := by
  cases exponent with
  | finite negative units representable =>
    change (units % unitsPerOne == 0) = true
    rw [whole.units_eq, Nat.mul_mod_left]
    rfl
  | _ => cases whole

theorem IsWhole.isOdd (whole : exponent.IsWhole n) : exponent.isOdd = decide (Odd n) := by
  cases exponent with
  | finite negative units representable =>
    change (units % (2 * unitsPerOne) == unitsPerOne) = decide (Odd n)
    rw [whole.units_eq, Nat.mul_mod_mul_right, Bool.eq_iff_iff, beq_iff_eq, decide_eq_true_iff, ← Int.natAbs_odd,
      Nat.odd_iff, Nat.mul_eq_right unitsPerOne_pos.ne']
  | _ => cases whole

theorem IsWhole.isZero (whole : exponent.IsWhole n) : exponent.isZero = decide (n = 0) := by
  cases exponent with
  | finite negative units representable =>
    change (units == 0) = decide (n = 0)
    rw [whole.units_eq, Bool.eq_iff_iff, beq_iff_eq, decide_eq_true_iff, Nat.mul_eq_zero, Int.natAbs_eq_zero,
      or_iff_left unitsPerOne_pos.ne']
  | _ => cases whole

/-- A power is the power of the magnitude, with the sign that an odd exponent gives to it. -/
theorem powBy_of_isWhole {ofPositive : Binary64 → Binary64 → Binary64} (accurate : IsAccurate ofPositive)
    (positive : 0 < units) (whole : exponent.IsWhole n) :
    ∃ magnitude : Binary64, magnitude.IsNear ((units / unitsPerOne : ℚ) ^ n) ∧
      powBy ofPositive (finite negative units representable) exponent =
        if negative && decide (Odd n) then magnitude.neg else magnitude := by
  by_cases zero : n = 0
  · subst zero
    refine ⟨one, ?_, ?_⟩
    · have none : (units / unitsPerOne : ℚ) ^ (0 : Int) = 1 := zpow_zero _
      rw [none]
      exact isNear_one
    · have even : decide (Odd (0 : Int)) = false := by decide
      unfold powBy
      rw [whole.isZero, even, Bool.and_false]
      rfl
  · refine ⟨if units = unitsPerOne then one else ofPositive (finite false units representable) exponent, ?_, ?_⟩
    · split
      · next same =>
        have power : (units / unitsPerOne : ℚ) ^ n = 1 := by
          rw [same, div_self (Nat.cast_ne_zero.mpr unitsPerOne_pos.ne'), one_zpow]
        rw [power]
        exact isNear_one
      · exact accurate units representable exponent n positive whole
    · have proper : ¬exponent.isZero = true := by
        rw [whole.isZero, decide_eq_true_iff]
        exact zero
      unfold powBy
      rw [if_neg proper, ← whole.isOdd]
      have integral := whole.isInteger
      cases exponent with
      | finite other others fits =>
        dsimp only
        rw [if_neg positive.ne', integral, Bool.not_true, Bool.and_false, if_neg Bool.false_ne_true]
      | _ => cases whole

end Doubles

/-! ## Correctly rounded powers -/

/-- The power of a positive double with a whole exponent, correctly rounded. -/
def roundedPower : Binary64 → Binary64 → Binary64
  | finite _ units _, finite negative others _ =>
    let e := others / unitsPerOne
    if negative then ofQuotient false (unitsPerOne ^ e * unitsPerOne) (units ^ e)
    else ofQuotient false (units ^ e * unitsPerOne) (unitsPerOne ^ e)
  | _, _ => nan

theorem isNear_ofQuotient {num den : Nat} {meant : ℚ} (positive : 0 < den)
    (same : (num / den : ℚ) = meant * unitsPerOne) : (ofQuotient false num den).IsNear meant := by
  have error := abs_roundUnits_sub_le_max positive num
  rw [same] at error
  unfold ofQuotient
  dsimp only
  split
  · exact .finite (error.trans (half_le_self (le_max_of_le_left zero_le_one)))
  · next large =>
    have one : (0 : ℚ) < unitsPerOne := Nat.cast_pos.mpr unitsPerOne_pos
    have beyond : (2 ^ 1024 * unitsPerOne : ℚ) ≤ roundUnits num den := by
      have range : 2 ^ 1024 * unitsPerOne = 2 ^ 2098 := two_pow_mul_unitsPerOne 1024
      have count : 2 ^ 1024 * unitsPerOne ≤ roundUnits num den :=
        range.trans_le (Nat.le_of_not_lt fun small => large (representable_roundUnits small))
      exact_mod_cast count
    have wide := two_pow_le_range
    have upper := (abs_le.mp error).2
    refine .infinite (le_of_mul_le_mul_right ?_ one)
    generalize (unitsPerOne : ℚ) = scale at *
    generalize (2 ^ 1024 : ℚ) = limit at *
    rcases le_total 1 (meant * scale / 2 ^ 52) with normal | tiny
    · rw [max_eq_right normal] at upper
      linarith
    · rw [max_eq_left tiny] at upper
      rw [div_le_one (by positivity)] at tiny
      linarith

theorem isAccurate_roundedPower : IsAccurate roundedPower := by
  intro units representable exponent n positive whole
  cases exponent with
  | finite negative others fits =>
    have count := whole.units_eq
    have sign : n = signedUnits negative n.natAbs := by
      obtain ⟨same⟩ := whole
      rw [count, signedUnits_mul] at same
      exact (Int.eq_of_mul_eq_mul_right unitsPerOne_ne_zero same).symm
    unfold roundedPower
    dsimp only
    rw [count, Nat.mul_div_cancel _ unitsPerOne_pos]
    generalize n.natAbs = e at sign
    subst sign
    cases negative with
    | true =>
      rw [if_pos rfl]
      refine isNear_ofQuotient (Nat.pow_pos positive) ?_
      change _ = (units / unitsPerOne : ℚ) ^ (-(e : Int)) * unitsPerOne
      rw [zpow_neg, zpow_natCast, div_pow, inv_div, Nat.cast_mul, Nat.cast_pow, Nat.cast_pow, div_mul_eq_mul_div]
    | false =>
      rw [if_neg Bool.false_ne_true]
      refine isNear_ofQuotient (Nat.pow_pos unitsPerOne_pos) ?_
      change _ = (units / unitsPerOne : ℚ) ^ (e : Int) * unitsPerOne
      rw [zpow_natCast, div_pow, Nat.cast_mul, Nat.cast_pow, Nat.cast_pow, div_mul_eq_mul_div]
  | _ => cases whole

/-! ## Numbers as doubles -/

theorem abs_signedUnits_div (negative : Bool) (units : Nat) :
    |(signedUnits negative units / unitsPerOne : ℚ)| = units / unitsPerOne := by
  rw [abs_div, Nat.abs_cast, ← Int.cast_abs, Int.abs_eq_natAbs, natAbs_signedUnits, Int.cast_natCast]

theorem eq_roundUnits_of_ofQuotient {sign negative : Bool} {num den units : Nat} {representable : Representable units}
    (rounded : ofQuotient sign num den = finite negative units representable) :
    negative = sign ∧ units = roundUnits num den := by
  unfold ofQuotient at rounded
  dsimp only at rounded
  split at rounded
  · cases rounded
    exact ⟨rfl, rfl⟩
  · cases rounded

/-- The double of an integer that has one. -/
theorem exists_finite_of_ofInt? {i : Int} {double : Binary64} (found : ofInt? i = some double) :
    ∃ representable, double = finite (decide (i < 0)) (roundUnits (i.natAbs * unitsPerOne) 1) representable := by
  unfold ofInt? at found
  split at found
  · next negative units representable rounded =>
    cases found
    have magnitude : (i * unitsPerOne).natAbs = i.natAbs * unitsPerOne := by
      rw [Int.natAbs_mul, Int.natAbs_natCast]
    have sign : decide (i * unitsPerOne < 0) = decide (i < 0) := by
      have positive : (0 : Int) < unitsPerOne := Int.natCast_pos.mpr unitsPerOne_pos
      rw [decide_eq_decide]
      exact ⟨fun below => neg_of_mul_neg_left below positive.le, fun below => mul_neg_of_neg_of_pos below positive⟩
    rw [ofInt, ofUnits, magnitude, sign] at rounded
    obtain ⟨rfl, rfl⟩ := eq_roundUnits_of_ofQuotient rounded
    exact ⟨representable, rfl⟩
  · cases found

/-- Beyond `2 ^ 53` all doubles are even. -/
theorem two_unitsPerOne_dvd {units : Nat} (representable : Representable units) (large : 2 ^ 53 * unitsPerOne ≤ units) :
    2 * unitsPerOne ∣ units := by
  rw [two_pow_mul_unitsPerOne] at large
  have nonzero : units ≠ 0 := ((Nat.two_pow_pos _).trans_le large).ne'
  have bits : 53 + 1074 ≤ units.log2 := (Nat.le_log2 nonzero).mpr large
  have coarse : 2 * unitsPerOne ∣ 2 ^ (units.log2 - 52) := by
    rw [← Nat.pow_one 2, two_pow_mul_unitsPerOne, Nat.pow_one]
    exact Nat.pow_dvd_pow 2 (by omega)
  exact coarse.trans (Nat.dvd_of_mod_eq_zero representable.2)

theorem two_pow_mul_le_roundUnits {bits k : Nat} (large : 2 ^ bits ≤ k) :
    2 ^ bits * unitsPerOne ≤ roundUnits (k * unitsPerOne) 1 := by
  rw [two_pow_mul_unitsPerOne]
  refine two_pow_le_roundUnits _ (by omega) ?_
  rw [← two_pow_mul_unitsPerOne]
  exact Nat.mul_le_mul_right _ large

end Binary64

namespace Number

variable {number : Number} {double : Binary64}

theorem toBinary64_int_eq_ok_iff {i : Int} : (Number.int i).toBinary64 = .ok double ↔ Binary64.ofInt? i = some double := by
  unfold toBinary64
  simp only
  split
  · next found => rw [found, Except.ok.injEq, Option.some.injEq]
  · next missing =>
    rw [missing]
    exact ⟨nofun, nofun⟩

/-- The double that stands for a number has its sign, and is not on the other side of one. -/
theorem exists_finite_of_rational? {b : ℚ} (meant : number.rational? = some b) (nonzero : b ≠ 0)
    (stands : number.toBinary64 = .ok double) :
    ∃ units representable, double = .finite (decide (b < 0)) units representable ∧ 0 < units ∧
      (1 < |b| → unitsPerOne < units) := by
  have one : (0 : ℚ) < unitsPerOne := Nat.cast_pos.mpr unitsPerOne_pos
  cases number with
  | int i =>
    cases meant
    obtain ⟨representable, rfl⟩ := Binary64.exists_finite_of_ofInt? (toBinary64_int_eq_ok_iff.mp stands)
    have least : 2 ^ 0 ≤ i.natAbs := Int.natAbs_pos.mpr (Int.cast_ne_zero.mp nonzero)
    have positive := Binary64.two_pow_mul_le_roundUnits least
    rw [pow_zero, one_mul] at positive
    simp only [Int.cast_lt_zero]
    refine ⟨_, representable, rfl, unitsPerOne_pos.trans_le positive, fun greater => ?_⟩
    have next : 2 ^ 1 ≤ i.natAbs := by
      rw [← Int.cast_abs, Int.abs_eq_natAbs] at greater
      exact_mod_cast greater
    have twice := Binary64.two_pow_mul_le_roundUnits next
    have one := unitsPerOne_pos
    omega
  | float value =>
    cases value with
    | nan | infinite => cases meant
    | finite negative units representable =>
      cases meant
      cases stands
      have positive : 0 < units := by
        refine Nat.pos_of_ne_zero fun zero => abs_ne_zero.mpr nonzero ?_
        rw [Binary64.abs_signedUnits_div, zero, Nat.cast_zero, zero_div]
      have sign : decide ((Binary64.signedUnits negative units / unitsPerOne : ℚ) < 0) = negative := by
        rw [Bool.eq_iff_iff, decide_eq_true_iff, div_lt_iff₀ one, zero_mul, Int.cast_lt_zero]
        cases negative <;> simp [Binary64.signedUnits, positive]
      rw [sign, Binary64.abs_signedUnits_div, one_lt_div one, Nat.cast_lt]
      exact ⟨units, representable, rfl, positive, id⟩

/-- The double that stands for a whole number is whole. Beyond `2 ^ 53` it is even, and up to there it is that
number. -/
theorem exists_isWhole_of_rational? {n : Int} (meant : number.rational? = some (n : ℚ))
    (stands : number.toBinary64 = .ok double) :
    ∃ m : Int, double.IsWhole m ∧ (|n| ≤ 2 ^ 53 → m = n) ∧ (2 ^ 53 < |n| → Even m) ∧ (n < 0 → m < 0) := by
  cases number with
  | int i =>
    obtain rfl : i = n := Int.cast_injective (Option.some.inj meant)
    obtain ⟨representable, rfl⟩ := Binary64.exists_finite_of_ofInt? (toBinary64_int_eq_ok_iff.mp stands)
    rw [Int.abs_eq_natAbs]
    by_cases short : i.natAbs ≤ 2 ^ 53
    · have same := roundUnits_of_representable (representable_whole short) Nat.one_pos
      rw [Nat.mul_one] at same
      refine ⟨i, .intro ?_, fun _ => rfl, fun long => ?_, id⟩
      · rw [same, Binary64.signedUnits_mul, Binary64.signedUnits_natAbs]
      · omega
    · have large := Binary64.two_pow_mul_le_roundUnits (Nat.le_of_not_le short)
      obtain ⟨half, even⟩ := Binary64.two_unitsPerOne_dvd representable large
      refine ⟨Binary64.signedUnits (decide (i < 0)) (2 * half), .intro ?_, fun short' => ?_, fun _ => ?_, fun below => ?_⟩
      · rw [even, ← Binary64.signedUnits_mul, Nat.mul_right_comm]
      · omega
      · rw [← Int.natAbs_even, Binary64.natAbs_signedUnits]
        exact even_two_mul half
      · have positive : 0 < half := by
          have nonzero : 2 ^ 53 * unitsPerOne ≠ 0 := mul_ne_zero (by positivity) unitsPerOne_pos.ne'
          refine Nat.pos_of_ne_zero fun zero => nonzero ?_
          rwa [even, zero, Nat.mul_zero, Nat.le_zero] at large
        rw [decide_eq_true below, Binary64.signedUnits, if_pos rfl]
        omega
  | float value =>
    cases value with
    | nan | infinite => cases meant
    | finite negative units representable =>
      cases stands
      have one : (unitsPerOne : ℚ) ≠ 0 := Nat.cast_ne_zero.mpr unitsPerOne_pos.ne'
      have same : Binary64.signedUnits negative units = n * unitsPerOne := by
        have quotient := Option.some.inj meant
        rw [div_eq_iff one] at quotient
        exact_mod_cast quotient
      have whole : (Binary64.finite negative units representable).IsWhole n := .intro same
      refine ⟨n, whole, fun _ => rfl, fun long => ?_, id⟩
      have count := whole.units_eq
      have large : 2 ^ 53 * unitsPerOne ≤ units := by
        rw [Int.abs_eq_natAbs] at long
        rw [count]
        exact Nat.mul_le_mul_right _ (by omega)
      have even := Binary64.two_unitsPerOne_dvd representable large
      rw [count, Nat.mul_dvd_mul_iff_right unitsPerOne_pos] at even
      exact Int.natAbs_even.mp (even_iff_two_dvd.mpr even)

/-! ## Powers of numbers -/

theorem compare?_finite_ne (negative : Bool) {units : Nat} (representable : Representable units) :
    (Number.float (.finite negative units representable)).compare? (.int 0) ≠
      some (if negative then .gt else .lt) := by
  have zero : (Number.int 0).rational? = some 0 := by rw [rational?, Int.cast_zero]
  rw [compare?_of_rational? rfl zero]
  cases negative with
  | false =>
    have nonnegative : (0 : ℚ) ≤ (units : Int) / unitsPerOne := by positivity
    exact fun less => (compare_lt_iff_lt.mp (Option.some.inj less)).not_ge nonnegative
  | true =>
    have nonpositive : ((-(units : Int) : Int) / unitsPerOne : ℚ) ≤ 0 := by
      rw [Int.cast_neg, neg_div, neg_nonpos]
      positivity
    exact fun greater => (compare_gt_iff_gt.mp (Option.some.inj greater)).not_ge nonpositive

theorem compare?_int_ne_of_neg {i : Int} (negative : i < 0) : (Number.int i).compare? (.int 0) ≠ some .gt := by
  rw [compare?_of_rational? rfl rfl]
  exact fun greater => (compare_gt_iff_gt.mp (Option.some.inj greater)).not_gt (Int.cast_lt.mpr negative)

/-- An integer with a natural exponent. -/
def IsExactPower (base exponent : Number) : Prop := ∃ (i : Int) (e : Nat), base = .int i ∧ exponent = .int e

/-- The power of the double that stands for the base is beyond the doubles, up to the given factor. -/
def Overflows (base : Number) (n : Int) (margin : ℚ) : Prop :=
  ∃ double c, base.toBinary64 = .ok double ∧ (Number.float double).rational? = some c ∧ 2 ^ 1024 ≤ |c| ^ n * margin

/-- What the power of a finite number `b` other than zero with a whole exponent `n` is like. -/
structure PowerOutcome (base exponent : Number) (b : ℚ) (n : Int) (result : Number) : Prop where
  /-- An odd power of a negative number is not positive, if it is exact, and also if a double stands for the base,
  the exponent is short and the power is not at the end of the doubles. -/
  sign : b < 0 → Odd n →
    base.IsExactPower exponent ∨ base.IsNarrow ∧ |n| ≤ 2 ^ 53 ∧ ¬base.Overflows n (1 + 1 / 2 ^ 52) →
    result.compare? (.int 0) ≠ some .gt
  /-- What is greater than one has finite powers for negative exponents, unless no double stands for it. -/
  size : 1 < |b| → n < 0 → ((∃ x, result.rational? = some x) ↔ base.IsNarrow)
  /-- Longer exponents count as even ones. -/
  longExponent : ¬base.IsExactPower exponent → 2 ^ 53 < |n| → result.compare? (.int 0) ≠ some .lt
  /-- What overflows is positive infinity, whether the base does or the power. -/
  overflow : ¬base.IsExactPower exponent →
    ¬base.IsNarrow ∨ |n| ≤ 2 ^ 53 ∧ base.Overflows n (1 - 1 / 2 ^ 52) → result = infinity false

section Powers

variable {ofPositive : Binary64 → Binary64 → Binary64} {base exponent : Number} {negative : Bool} {units : Nat}
  {representable : Representable units} {n : Int}

theorem overflows_iff {margin : ℚ} (stands : base.toBinary64 = .ok (.finite negative units representable)) :
    base.Overflows n margin ↔ 2 ^ 1024 ≤ (units / unitsPerOne : ℚ) ^ n * margin := by
  rw [← Binary64.abs_signedUnits_div negative]
  constructor
  · rintro ⟨double, c, stands', meant, beyond⟩
    rw [stands] at stands'
    cases stands'
    cases meant
    exact beyond
  · exact fun beyond => ⟨_, _, stands, rfl, beyond⟩

theorem properPower_int_nat (i : Int) (e : Nat) : properPower ofPositive (.int i) (.int e) = .int (i ^ e) := by
  rw [← integerPower_eq]
  rfl

theorem properPower_of_not_exact (rounded : ¬base.IsExactPower exponent) :
    properPower ofPositive base exponent = powerAsDoubles ofPositive base exponent := by
  unfold properPower
  split
  · next i e => exact absurd ⟨i, e, rfl, rfl⟩ rounded
  · rfl

theorem powerAsDoubles_of_ok {x y : Binary64} (ofBase : base.toBinary64 = .ok x) (ofExponent : exponent.toBinary64 = .ok y) :
    powerAsDoubles ofPositive base exponent = powerOfDoubles ofPositive x y := by
  unfold powerAsDoubles
  rw [ofBase, ofExponent]

theorem powerAsDoubles_of_not_isNarrow (beyond : ¬base.IsNarrow) :
    powerAsDoubles ofPositive base exponent = infinity false := by
  unfold powerAsDoubles
  cases stands : base.toBinary64 with
  | ok x => exact absurd ⟨x, stands⟩ beyond
  | error fault => rfl

/-- A base with a whole exponent has a power, whatever its sign. -/
theorem powerBy_of_isWhole {double : Binary64} (stands : exponent.toBinary64 = .ok double) (whole : double.IsWhole n) :
    powerBy ofPositive base exponent = .ok (properPower ofPositive base exponent) := by
  unfold powerBy
  split
  · rw [stands]
    change Except.ok _ = _
    rw [if_pos whole.isInteger]
  · rfl

/-- A power of doubles is infinite at the end of the doubles, and then positive; before it has the sign that the
exponent gives it. -/
theorem powerOfDoubles_of_isWhole {double : Binary64} (accurate : Binary64.IsAccurate ofPositive) (positive : 0 < units)
    (whole : double.IsWhole n) :
    (powerOfDoubles ofPositive (.finite negative units representable) double = infinity false ∧
      2 ^ 1024 ≤ (units / unitsPerOne : ℚ) ^ n * (1 + 1 / 2 ^ 52)) ∨
    ∃ count fits,
      powerOfDoubles ofPositive (.finite negative units representable) double =
        .float (.finite (negative && decide (Odd n)) count fits) ∧
      (units / unitsPerOne : ℚ) ^ n * (1 - 1 / 2 ^ 52) < 2 ^ 1024 := by
  obtain ⟨magnitude, near, power⟩ := Binary64.powBy_of_isWhole accurate positive whole
  unfold powerOfDoubles
  rw [power]
  cases near with
  | infinite beyond =>
    refine .inl ⟨?_, beyond⟩
    cases whole
    cases negative && decide (Odd n) <;> rfl
  | @finite count fits near =>
    refine .inr ⟨count, fits, ?_, ?_⟩
    · cases negative && decide (Odd n) <;> rfl
    · exact Binary64.lt_of_near fits near

theorem powerOutcome_of_exact {b : ℚ} {i : Int} {e : Nat} (ofBase : (Number.int i).rational? = some b)
    (ofExponent : (Number.int e).rational? = some (n : ℚ)) : PowerOutcome (.int i) (.int e) b n (.int (i ^ e)) := by
  obtain rfl : b = i := (Option.some.inj ofBase).symm
  obtain rfl : n = e := (Int.cast_injective (Option.some.inj ofExponent)).symm
  have exactly : (Number.int i).IsExactPower (.int e) := ⟨i, e, rfl, rfl⟩
  refine ⟨fun below odd _ => ?_, fun _ below => ?_, fun rounded => absurd exactly rounded,
    fun rounded => absurd exactly rounded⟩
  · have negative : i ^ e < 0 := ((Int.odd_coe_nat e).mp odd).pow_neg (Int.cast_lt_zero.mp below)
    exact compare?_int_ne_of_neg negative
  · exact absurd below (Int.natCast_nonneg e).not_gt

theorem powerOutcome_beyond_doubles {b : ℚ} (rounded : ¬base.IsExactPower exponent) (beyond : ¬base.IsNarrow) :
    PowerOutcome base exponent b n (infinity false) := by
  refine ⟨fun _ _ kept => ?_, fun _ _ => ⟨fun finite => ?_, fun narrow => absurd narrow beyond⟩, fun _ _ => nofun,
    fun _ _ => rfl⟩
  · exact absurd (kept.resolve_left rounded).1 beyond
  · obtain ⟨x, meant⟩ := finite
    cases meant

/-- The power of two doubles is an outcome for the numbers for which they stand. -/
theorem powerOutcome_of_doubles {b : ℚ} {x double : Binary64} (accurate : Binary64.IsAccurate ofPositive)
    (ofBase : base.rational? = some b) (nonzero : b ≠ 0) (ofExponent : exponent.rational? = some (n : ℚ))
    (rounded : ¬base.IsExactPower exponent) (standsBase : base.toBinary64 = .ok x)
    (stands : exponent.toBinary64 = .ok double) :
    PowerOutcome base exponent b n (powerOfDoubles ofPositive x double) := by
  have narrow : base.IsNarrow := ⟨x, standsBase⟩
  obtain ⟨m, whole, short, long, negative⟩ := exists_isWhole_of_rational? ofExponent stands
  obtain ⟨units, representable, rfl, positive, greater⟩ := exists_finite_of_rational? ofBase nonzero standsBase
  rcases powerOfDoubles_of_isWhole accurate positive whole with ⟨power, beyond⟩ | ⟨count, fits, power, before⟩
  · rw [power]
    refine ⟨fun _ _ kept => ?_, fun large below => ?_, fun _ _ => nofun, fun _ _ => rfl⟩
    · obtain ⟨_, fewBits, inside⟩ := kept.resolve_left rounded
      rw [overflows_iff standsBase, ← short fewBits] at inside
      exact absurd beyond inside
    · exact absurd beyond (Binary64.not_beyond_of_neg (greater large) (negative below))
  · rw [power]
    refine ⟨fun below odd kept => ?_, fun _ _ => ⟨fun _ => narrow, fun _ => ⟨_, rfl⟩⟩, fun _ manyBits => ?_,
      fun _ lost => ?_⟩
    · obtain ⟨_, fewBits, _⟩ := kept.resolve_left rounded
      rw [short fewBits, decide_eq_true below, decide_eq_true odd]
      exact compare?_finite_ne true fits
    · rw [decide_eq_false (Int.not_odd_iff_even.mpr (long manyBits)), Bool.and_false]
      exact compare?_finite_ne false fits
    · obtain ⟨fewBits, overflows⟩ := lost.resolve_left (not_not_intro narrow)
      rw [overflows_iff standsBase, ← short fewBits] at overflows
      exact absurd overflows before.not_ge

/-- Every finite number other than zero has a power for every whole exponent for which a double stands, with the
sign and the size that it should have except for the named cases. -/
theorem power_keeps_sign_and_size (accurate : Binary64.IsAccurate ofPositive) {b : ℚ}
    (ofBase : base.rational? = some b) (nonzero : b ≠ 0) (ofExponent : exponent.rational? = some (n : ℚ))
    (narrow : exponent.IsNarrow) :
    ∃ result, powerBy ofPositive base exponent = .ok result ∧ PowerOutcome base exponent b n result := by
  obtain ⟨double, stands⟩ := narrow
  obtain ⟨m, whole, _⟩ := exists_isWhole_of_rational? ofExponent stands
  refine ⟨_, powerBy_of_isWhole stands whole, ?_⟩
  by_cases exactly : base.IsExactPower exponent
  · obtain ⟨i, e, rfl, rfl⟩ := exactly
    rw [properPower_int_nat]
    exact powerOutcome_of_exact ofBase ofExponent
  · rw [properPower_of_not_exact exactly]
    by_cases within : base.IsNarrow
    · obtain ⟨x, standsBase⟩ := within
      rw [powerAsDoubles_of_ok standsBase stands]
      exact powerOutcome_of_doubles accurate ofBase nonzero ofExponent exactly standsBase stands
    · rw [powerAsDoubles_of_not_isNarrow within]
      exact powerOutcome_beyond_doubles exactly within

end Powers

/-- A base that is no double, though one stands for it, and an exponent that is odd and negative. -/
theorem power_keeps_sign_and_size_of_reciprocal :
    Binary64.IsAccurate Binary64.roundedPower ∧ (Number.int (-(2 ^ 60 + 1))).IsNarrow ∧
      ∃ result, powerBy Binary64.roundedPower (.int (-(2 ^ 60 + 1))) (.int (-1)) = .ok result ∧
        result.compare? (.int 0) ≠ some .gt ∧ ∃ x, result.rational? = some x := by
  have meant : (Number.int (-(2 ^ 60 + 1))).rational? = some ((-(2 ^ 60 + 1) : Int) : ℚ) := rfl
  have nonzero : ((-(2 ^ 60 + 1) : Int) : ℚ) ≠ 0 := Int.cast_ne_zero.mpr (by decide)
  have greater : (1 : ℚ) < |((-(2 ^ 60 + 1) : Int) : ℚ)| := by
    rw [← Int.cast_abs]
    exact Int.cast_lt.mpr (by decide : (1 : Int) < |-(2 ^ 60 + 1)|)
  have narrow : (Number.int (-(2 ^ 60 + 1))).IsNarrow := isNarrow_int_iff.mpr (by decide +kernel)
  have inside : ¬(Number.int (-(2 ^ 60 + 1))).Overflows (-1) (1 + 1 / 2 ^ 52) := by
    obtain ⟨double, stands⟩ := narrow
    obtain ⟨units, representable, rfl, _, beyondOne⟩ := exists_finite_of_rational? meant nonzero stands
    rw [overflows_iff stands]
    exact Binary64.not_beyond_of_neg (beyondOne greater) (by decide)
  obtain ⟨result, power, outcome⟩ :=
    power_keeps_sign_and_size Binary64.isAccurate_roundedPower meant nonzero (n := -1) rfl
      (isNarrow_int_iff.mpr (by decide +kernel))
  refine ⟨Binary64.isAccurate_roundedPower, narrow, result, power, ?_, (outcome.size greater (by decide)).mpr narrow⟩
  exact outcome.sign (Int.cast_lt_zero.mpr (by decide)) (by decide) (.inr ⟨narrow, by decide, inside⟩)

/-- The reciprocal of a base beyond the doubles is infinite and positive. -/
theorem power_of_base_beyond_doubles : power (.int (-2 ^ 1024)) (.int (-1)) = .ok (infinity false) := by
  obtain ⟨double, stands⟩ : (Number.int (-1)).IsNarrow := isNarrow_int_iff.mpr (by decide +kernel)
  obtain ⟨m, whole, _⟩ := exists_isWhole_of_rational? (n := -1) rfl stands
  have rounded : ¬(Number.int (-2 ^ 1024)).IsExactPower (.int (-1)) := by
    rintro ⟨i, e, _, same⟩
    cases same
  have beyond : ¬(Number.int (-2 ^ 1024)).IsNarrow := mt isNarrow_int_iff.mp (by decide +kernel)
  rw [power, powerBy_of_isWhole stands whole, properPower_of_not_exact rounded, powerAsDoubles_of_not_isNarrow beyond]

/-- An odd exponent that is rounded to an even one makes the power of minus one positive. -/
theorem power_of_long_exponent : power (.float (.ofInt (-1))) (.int (2 ^ 53 + 1)) = .ok (.float .one) := by
  have stands : (Number.int (2 ^ 53 + 1)).toBinary64 = .ok (.ofInt (2 ^ 53)) :=
    toBinary64_int_eq_ok_iff.mpr (by decide +kernel)
  obtain ⟨m, whole, _⟩ := exists_isWhole_of_rational? (n := 2 ^ 53 + 1) rfl stands
  have rounded : ¬(Number.float (.ofInt (-1))).IsExactPower (.int (2 ^ 53 + 1)) := by
    rintro ⟨i, e, same, _⟩
    cases same
  have itself : (Number.float (.ofInt (-1))).toBinary64 = .ok (.ofInt (-1)) := rfl
  rw [power, powerBy_of_isWhole stands whole, properPower_of_not_exact rounded, powerAsDoubles_of_ok itself stands]
  exact congrArg Except.ok (by decide +kernel)

end Number

/-- The reciprocal of a number far below minus one is positive infinity, and minus one has a power with an odd
exponent that is positive. -/
theorem Operator.power_loses_sign_and_size :
    (∀ host store, power.apply (.int (-2 ^ 1024)) (.int (-1)) host store = .done (.number (.infinity false)) store) ∧
    ∀ host store, power.apply (.number (.float (.ofInt (-1)))) (.int (2 ^ 53 + 1)) host store =
      .done (.number (.float .one)) store := by
  have reciprocal : power.calculate (.int (-2 ^ 1024)) (.int (-1)) = .ok (.infinity false) :=
    Number.power_of_base_beyond_doubles
  have power : power.calculate (.float (.ofInt (-1))) (.int (2 ^ 53 + 1)) = .ok (.float .one) :=
    Number.power_of_long_exponent
  exact ⟨apply_of_calculate rfl reciprocal, apply_of_calculate rfl power⟩

end TreeScript
