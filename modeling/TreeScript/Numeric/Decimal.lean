import TreeScript.Numeric.Binary64

/-! # Decimal numbers and the doubles they denote

A decimal is a coefficient times a power of ten. Reading one rounds its exact value once. Writing a
double picks the decimal with the fewest digits that reads back as that double, and of those the
nearest, or the even one of two equally near. On each grid of decimals, coarse grids first, only the
two neighbours of the exact value can read back first, and they are tested by reading them.
-/

namespace TreeScript

-- Powers are those of the core library, whatever else is in scope.
attribute [local instance (high)] instPowNat

/-- The number `coefficient * 10 ^ exponent`. -/
structure Decimal where
  coefficient : Nat
  exponent : Int
  deriving DecidableEq, Repr

namespace Binary64

/-- The double nearest to a decimal. Decimals far outside the range of doubles are settled by their
size alone, so a long exponent costs nothing. -/
def ofDecimal (negative : Bool) (decimal : Decimal) : Binary64 :=
  if decimal.coefficient = 0 then zero negative
  else if 400 < decimal.exponent then .infinite negative
  else if decimal.exponent + (decimal.coefficient.log2 + 1) < -400 then zero negative
  else match decimal.exponent with
    | .ofNat exponent =>
      ofQuotient negative (decimal.coefficient * 10 ^ exponent * unitsPerOne) 1
    | .negSucc exponent =>
      ofQuotient negative (decimal.coefficient * unitsPerOne) (10 ^ (exponent + 1))

end Binary64

namespace Decimal

/-- The exact decimal expansion of a count of units. -/
def ofUnits (units : Nat) : Decimal := ⟨units * 5 ^ (1074 : Nat), -1074⟩

/-- The two multiples of `10 ^ exponent` around a count of units, the nearer one first; of two that
are equally near, the even multiple. -/
def neighbours (units : Nat) (exponent : Int) : List Decimal :=
  let (num, den) := match exponent with
    | .ofNat e => (units, unitsPerOne * 10 ^ e)
    | .negSucc e => (units * 10 ^ (e + 1), unitsPerOne)
  let below : Decimal := ⟨num / den, exponent⟩
  let above : Decimal := ⟨num / den + 1, exponent⟩
  let twice := 2 * (num % den)
  if twice < den ∨ twice = den ∧ below.coefficient % 2 = 0 then [below, above] else [above, below]

/-- The first decimal that passes `accept`, on the grids `10 ^ exponent`, `10 ^ (exponent - 1)`, …;
`grids` bounds the search. -/
def coarsest? (accept : Decimal → Bool) (units : Nat) : Nat → Int → Option Decimal
  | 0, _ => none
  | grids + 1, exponent =>
    match (neighbours units exponent).find? accept with
    | some decimal => some decimal
    | none => coarsest? accept units grids (exponent - 1)

/-- An exponent no smaller than that of the leading digit of a positive count of units. -/
def leadingExponent (units : Nat) : Int :=
  (((units.log2 : Int) - 1073) * 30103).fdiv 100000 + 1

/-- The fewest digits that read back as the double with this count of units. -/
def shortest (units : Nat) : Decimal :=
  if representable : Representable units then
    let reads := fun decimal : Decimal =>
      decide (Binary64.ofDecimal false decimal = .finite false units representable)
    (coarsest? reads units 20 (leadingExponent units)).getD (ofUnits units)
  else ofUnits units

/-- Drop the trailing zeros of a coefficient; `fuel` bounds their number. -/
def trimZeros : Nat → Decimal → Decimal
  | 0, decimal => decimal
  | fuel + 1, decimal =>
    if decimal.coefficient ≠ 0 ∧ decimal.coefficient % 10 = 0 then
      trimZeros fuel ⟨decimal.coefficient / 10, decimal.exponent + 1⟩
    else decimal

/-- Digits with a decimal point after the first `point` of them, padded with zeros on either side;
a whole number ends in `.0`. -/
def positional (digits : List Char) (point : Int) : List Char :=
  match point with
  | .negSucc n => '0' :: '.' :: (List.replicate (n + 1) '0' ++ digits)
  | .ofNat 0 => '0' :: '.' :: digits
  | .ofNat n =>
    if digits.length ≤ n then
      digits ++ List.replicate (n - digits.length) '0' ++ ['.', '0']
    else digits.take n ++ '.' :: digits.drop n

/-- Digits with a decimal point after the first, and a signed exponent of at least two digits. -/
def scientific (digits : List Char) (exponent : Int) : List Char :=
  let mantissa := match digits with
    | first :: second :: rest => first :: '.' :: second :: rest
    | short => short
  let magnitude := Nat.toDigits 10 exponent.natAbs
  let padded := if magnitude.length < 2 then '0' :: magnitude else magnitude
  mantissa ++ 'e' :: (if exponent < 0 then '-' else '+') :: padded

/-- The notation of a decimal: positional for leading exponents from `-4` to `15`, scientific
otherwise. -/
def notate (decimal : Decimal) : List Char :=
  let digits := Nat.toDigits 10 decimal.coefficient
  let leading := digits.length + decimal.exponent - 1
  if -4 ≤ leading ∧ leading < 16 then positional digits (leading + 1)
  else scientific digits leading

end Decimal

/-- How NaN and the infinities are spelled. -/
structure SpecialNames where
  nan : String
  infinity : String

namespace Binary64

/-- The shortest notation that reads back as this double. -/
def text (names : SpecialNames) : Binary64 → String
  | nan => names.nan
  | infinite negative => if negative then "-" ++ names.infinity else names.infinity
  | finite negative units _ =>
    let decimal := if units = 0 then ⟨0, 0⟩ else Decimal.trimZeros 20 (Decimal.shortest units)
    let digits := decimal.notate
    String.ofList (if negative then '-' :: digits else digits)

end Binary64

end TreeScript
