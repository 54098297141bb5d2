import TreeScript.Numeric.Decimal

/-! # Doubles written with a given number of digits

The magnitude of a double, a count of units, is rounded once to a multiple of a power of ten; a half
goes to the even neighbour.
-/

namespace TreeScript.Rounded

-- Powers are those of the core library, whatever else is in scope.
attribute [local instance (high)] instPowNat

/-- The multiple of `10 ^ exponent` nearest to a count of units. -/
def multiple (units : Nat) (exponent : Int) : Nat :=
  match exponent with
  | .ofNat e => nearestEven units (unitsPerOne * 10 ^ e)
  | .negSucc e => nearestEven (units * 10 ^ (e + 1)) unitsPerOne

/-- Digits with a point before the last `places` of them; the point may stand alone at the end if
`keepsPoint` is set. -/
def withPoint (keepsPoint : Bool) (places : Nat) (digits : List Char) : List Char :=
  let padded := List.replicate (places + 1 - digits.length) '0' ++ digits
  let whole := padded.take (padded.length - places)
  let fraction := padded.drop (padded.length - places)
  if fraction.isEmpty && !keepsPoint then whole else whole ++ '.' :: fraction

/-- A fixed number of places after the point. -/
def fixed (keepsPoint : Bool) (places units : Nat) : List Char :=
  withPoint keepsPoint places (Nat.toDigits 10 (multiple units (-places)))

/-- The largest exponent, from the given one downwards, of a power of ten that is not above a count
of units. -/
def exponentFrom (units : Nat) : Nat → Int → Int
  | 0, exponent => exponent
  | effort + 1, exponent =>
    let isAbove : Bool := match exponent with
      | .ofNat e => units < unitsPerOne * 10 ^ e
      | .negSucc e => units * 10 ^ (e + 1) < unitsPerOne
    if isAbove then exponentFrom units effort (exponent - 1) else exponent

/-- One digit and a fixed number of places after it, with the exponent of the digit. -/
def mantissa (places units : Nat) : List Char × Int :=
  if units = 0 then (List.replicate (places + 1) '0', 0)
  else
    let exponent := exponentFrom units 4 (Decimal.leadingExponent units)
    let digits := Nat.toDigits 10 (multiple units (exponent - places))
    if digits.length = places + 2 then (digits.take (places + 1), exponent + 1)
    else (digits, exponent)

/-- A signed exponent of at least two digits. -/
def exponentText (exponent : Int) : List Char :=
  let magnitude := Nat.toDigits 10 exponent.natAbs
  let padded := if magnitude.length < 2 then '0' :: magnitude else magnitude
  'e' :: (if exponent < 0 then '-' else '+') :: padded

/-- One digit before the point, a fixed number of places after it, and an exponent. -/
def exponential (keepsPoint : Bool) (places units : Nat) : List Char :=
  let (digits, exponent) := mantissa places units
  withPoint keepsPoint places digits ++ exponentText exponent

/-- A text without the zeros at the end of its fraction. -/
def trimFraction (cs : List Char) : List Char :=
  if cs.contains '.' then
    match (cs.reverse.dropWhile (· == '0')) with
    | '.' :: whole => whole.reverse
    | digits => digits.reverse
  else cs

/-- At most the given number of digits, in the shorter of the two notations; zeros at the end of the
fraction are kept only if `keepsZeros` is set. -/
def general (keepsZeros : Bool) (digits units : Nat) : List Char :=
  let digits := max digits 1
  let (leading, exponent) := mantissa (digits - 1) units
  let trim (cs : List Char) : List Char := if keepsZeros then cs else trimFraction cs
  if -4 ≤ exponent ∧ exponent < digits then
    trim (fixed keepsZeros (digits - 1 - exponent).toNat units)
  else trim (withPoint keepsZeros (digits - 1) leading) ++ exponentText exponent

end TreeScript.Rounded
