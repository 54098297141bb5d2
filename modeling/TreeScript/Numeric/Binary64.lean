/-! # Doubles as exact counts of units

Every finite double is a whole number of *units*, one unit being the least positive double
`2 ^ -1074`. A finite double is therefore stored as a sign and a count of units that a double can
hold, and arithmetic is exact integer arithmetic followed by one rounding. Two finite doubles are
the same value of this type exactly when they have the same sign and the same magnitude, so equality
separates `-0.0` from `0.0`; there is one NaN.
-/

namespace TreeScript

-- Powers are those of the core library, whatever else is in scope.
attribute [local instance (high)] instPowNat

/-- The number of units in the number one. -/
def unitsPerOne : Nat := 2 ^ (1074 : Nat)

/-- A count of units that a double can hold: below `2 ^ 1024` as a number, and with at most 53
significant bits. -/
def Representable (units : Nat) : Prop :=
  units < 2 ^ (2098 : Nat) ∧ units % 2 ^ (units.log2 - 52) = 0

instance (units : Nat) : Decidable (Representable units) :=
  inferInstanceAs (Decidable (_ ∧ _))

/-- A double: NaN, one of the infinities, or a signed representable count of units. -/
inductive Binary64 where
  | nan
  | infinite (negative : Bool)
  | finite (negative : Bool) (units : Nat) (representable : Representable units)
  deriving DecidableEq

/-- The whole number nearest to `num / den`; a half goes to the even neighbour. -/
def nearestEven (num den : Nat) : Nat :=
  let quotient := num / den
  let remainder := num % den
  if 2 * remainder < den then quotient
  else if den < 2 * remainder then quotient + 1
  else quotient + quotient % 2

/-- The count of units nearest to `num / den` among those with 53 significant bits. The spacing of
such counts around a magnitude depends only on its integer part. -/
def roundUnits (num den : Nat) : Nat :=
  let spacing := 2 ^ ((num / den).log2 - 52)
  nearestEven num (den * spacing) * spacing

namespace Binary64

theorem representable_zero : Representable 0 :=
  And.intro (Nat.two_pow_pos 2098) (Nat.zero_mod _)

/-- The zero of the given sign. -/
def zero (negative : Bool) : Binary64 := .finite negative 0 representable_zero

instance : Inhabited Binary64 := ⟨zero false⟩

/-- The double nearest to `num / den` units; what lies beyond the largest double is infinite. -/
def ofQuotient (negative : Bool) (num den : Nat) : Binary64 :=
  let units := roundUnits num den
  if representable : Representable units then .finite negative units representable
  else .infinite negative

/-- The double nearest to an exact signed count of units; an exact zero is positive. -/
def ofUnits (units : Int) : Binary64 :=
  ofQuotient (units < 0) units.natAbs 1

/-- The double nearest to an integer. -/
def ofInt (n : Int) : Binary64 := ofUnits (n * unitsPerOne)

/-- The double nearest to an integer, unless the integer lies beyond the largest double. -/
def ofInt? (n : Int) : Option Binary64 :=
  match ofInt n with
  | .finite negative units representable => some (.finite negative units representable)
  | _ => none

/-- The double nearest to a quotient of two integers. A zero quotient keeps the sign that the
operands give it. -/
def ofRatio (num den : Int) : Binary64 :=
  ofQuotient (decide (num < 0) != decide (den < 0)) (num.natAbs * unitsPerOne) den.natAbs

def isNaN : Binary64 → Bool
  | nan => true
  | _ => false

def isInfinite : Binary64 → Bool
  | infinite _ => true
  | _ => false

/-- The sign bit; NaN counts as positive. -/
def isNegative : Binary64 → Bool
  | nan => false
  | infinite negative => negative
  | finite negative _ _ => negative

/-- The zeros, of either sign. -/
def isZero : Binary64 → Bool
  | finite _ units _ => units == 0
  | _ => false

/-- The signed count of units of a finite double. -/
def signedUnits (negative : Bool) (units : Nat) : Int :=
  if negative then -(units : Int) else units

/-- Whether a double is a finite whole number. -/
def isInteger : Binary64 → Bool
  | finite _ units _ => units % unitsPerOne == 0
  | _ => false

/-- The greatest integer that is at most a finite double. -/
def floor? : Binary64 → Option Int
  | finite negative units _ => some ((signedUnits negative units).fdiv unitsPerOne)
  | _ => none

/-- The least integer that is at least a finite double. -/
def ceil? : Binary64 → Option Int
  | finite negative units _ => some (-((-(signedUnits negative units)).fdiv unitsPerOne))
  | _ => none

/-- The integer part of a finite double, its fraction dropped toward zero. -/
def truncate? : Binary64 → Option Int
  | finite negative units _ => some (signedUnits negative (units / unitsPerOne))
  | _ => none

protected def neg : Binary64 → Binary64
  | nan => nan
  | infinite negative => infinite !negative
  | finite negative units representable => finite (!negative) units representable

def abs : Binary64 → Binary64
  | nan => nan
  | infinite _ => infinite false
  | finite _ units representable => finite false units representable

protected def add : Binary64 → Binary64 → Binary64
  | nan, _ => nan
  | _, nan => nan
  | infinite left, infinite right => if left = right then infinite left else nan
  | infinite left, _ => infinite left
  | _, infinite right => infinite right
  | finite leftNegative left _, finite rightNegative right _ =>
    let sum := signedUnits leftNegative left + signedUnits rightNegative right
    if sum = 0 then zero (leftNegative && rightNegative) else ofUnits sum

protected def sub (left right : Binary64) : Binary64 := left.add right.neg

protected def mul : Binary64 → Binary64 → Binary64
  | nan, _ => nan
  | _, nan => nan
  | infinite left, right =>
    if right.isZero then nan else infinite (left != right.isNegative)
  | left, infinite right =>
    if left.isZero then nan else infinite (left.isNegative != right)
  | finite leftNegative left _, finite rightNegative right _ =>
    ofQuotient (leftNegative != rightNegative) (left * right) unitsPerOne

protected def div : Binary64 → Binary64 → Binary64
  | nan, _ => nan
  | _, nan => nan
  | infinite _, infinite _ => nan
  | infinite left, right => infinite (left != right.isNegative)
  | left, infinite right => zero (left.isNegative != right)
  | finite leftNegative left _, finite rightNegative right _ =>
    if right = 0 then
      if left = 0 then nan else infinite (leftNegative != rightNegative)
    else ofQuotient (leftNegative != rightNegative) (left * unitsPerOne) right

instance : Neg Binary64 := ⟨Binary64.neg⟩
instance : Add Binary64 := ⟨Binary64.add⟩
instance : Sub Binary64 := ⟨Binary64.sub⟩
instance : Mul Binary64 := ⟨Binary64.mul⟩
instance : Div Binary64 := ⟨Binary64.div⟩

/-- The largest whole number whose square is at most `n`, by bisection from above; `fuel` bounds
the number of halvings. -/
def rootBelow (n : Nat) : Nat → Nat → Nat → Nat
  | 0, low, _ => low
  | fuel + 1, low, high =>
    if high ≤ low + 1 then low
    else
      let middle := (low + high) / 2
      if middle * middle ≤ n then rootBelow n fuel middle high else rootBelow n fuel low middle

/-- The integer part of a square root. -/
def integerRoot (n : Nat) : Nat :=
  let bound := 2 ^ (n.log2 / 2 + 1)
  rootBelow n (n.log2 + 2) 0 bound

/-- The correctly rounded square root; negative numbers have none, and `-0.0` is its own. The exact
root of a positive number has more than 53 bits before its unit, so an inexact root may be replaced
by the midpoint of the two whole counts around it without changing the rounding. -/
def sqrt : Binary64 → Binary64
  | nan => nan
  | infinite negative => if negative then nan else infinite false
  | finite negative units representable =>
    if units = 0 then finite negative units representable
    else if negative then nan
    else
      let square := units * unitsPerOne
      let root := integerRoot square
      if root * root = square then ofQuotient false root 1 else ofQuotient false (2 * root + 1) 2

end Binary64

end TreeScript
