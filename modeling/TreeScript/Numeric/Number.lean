import TreeScript.Numeric.Decimal
import TreeScript.Numeric.Power

/-! # Numbers: integers of any size and doubles

A number is an integer or a double, and keeps its form: `1` and `1.0` are different numbers that
compare equal. Arithmetic on two integers is exact; as soon as a double is involved the other
operand is rounded to a double first. Comparison never rounds: every number has an exact position,
counted in units.
-/

namespace TreeScript

-- Powers are those of the core library, whatever else is in scope.
attribute [local instance (high)] instPowNat

/-- A script number. -/
inductive Number where
  | int (value : Int)
  | float (value : Binary64)
  deriving DecidableEq

/-- The ways in which arithmetic on large integers has no answer. -/
inductive ArithmeticFault where
  /-- An integer beyond the largest double was needed as a double. -/
  | integerTooLarge
  /-- The quotient of two integers lies beyond the largest double. -/
  | quotientTooLarge
  deriving DecidableEq, Repr

def ArithmeticFault.message : ArithmeticFault → String
  | integerTooLarge => "int too large to convert to float"
  | quotientTooLarge => "integer division result too large for a float"

/-- Where a number other than NaN lies on the number line. -/
inductive Position where
  | below
  | point (units : Int)
  | above
  deriving DecidableEq

/-- The order of the number line. -/
def Position.compare : Position → Position → Ordering
  | below, below => .eq
  | below, _ => .lt
  | _, below => .gt
  | .point left, .point right => Ord.compare left right
  | .point _, above => .lt
  | above, .point _ => .gt
  | above, above => .eq

namespace Number

instance : Inhabited Number := ⟨.int 0⟩

def nan : Number := .float .nan

def infinity (negative : Bool) : Number := .float (.infinite negative)

/-- The exact position of a number; NaN has none. -/
def position? : Number → Option Position
  | int n => some (.point (n * unitsPerOne))
  | float .nan => none
  | float (.infinite negative) => some (if negative then .below else .above)
  | float (.finite negative units _) => some (.point (Binary64.signedUnits negative units))

/-- Compare two numbers exactly; NaN compares with nothing. -/
def compare? (left right : Number) : Option Ordering :=
  match left.position?, right.position? with
  | some l, some r => some (l.compare r)
  | _, _ => none

def isNaN : Number → Bool
  | int _ => false
  | float d => d.isNaN

def isZero : Number → Bool
  | int n => n == 0
  | float d => d.isZero

def isNegative (n : Number) : Bool := n.compare? (.int 0) == some .lt

/-- The double that stands for a number. -/
def toBinary64 : Number → Except ArithmeticFault Binary64
  | int n =>
    match Binary64.ofInt? n with
    | some d => .ok d
    | none => .error .integerTooLarge
  | float d => .ok d

/-- An operation that has its own way with two integers and works on doubles otherwise. -/
def combine {α : Type} (exact : Int → Int → Except ArithmeticFault α)
    (rounded : Binary64 → Binary64 → α) (left right : Number) : Except ArithmeticFault α :=
  match left, right with
  | int l, int r => exact l r
  | l, r => do
    let x ← l.toBinary64
    let y ← r.toBinary64
    return rounded x y

theorem combine_int_int {α : Type} (exact : Int → Int → Except ArithmeticFault α)
    (rounded : Binary64 → Binary64 → α) (left right : Int) :
    combine exact rounded (int left) (int right) = exact left right := rfl

/-- An operation that is exact on integers and rounds otherwise. -/
def arithmetic (exact : Int → Int → Int) (rounded : Binary64 → Binary64 → Binary64) :
    Number → Number → Except ArithmeticFault Number :=
  combine (fun l r => .ok (.int (exact l r))) (fun x y => .float (rounded x y))

def add : Number → Number → Except ArithmeticFault Number := arithmetic (· + ·) (· + ·)

def sub : Number → Number → Except ArithmeticFault Number := arithmetic (· - ·) (· - ·)

def mul : Number → Number → Except ArithmeticFault Number := arithmetic (· * ·) (· * ·)

/-- The rounded quotient of two integers, unless it lies beyond the largest double. -/
def finiteQuotient : Binary64 → Except ArithmeticFault Binary64
  | .infinite _ => .error .quotientTooLarge
  | quotient => .ok quotient

/-- The quotient of two numbers is a double. Dividing by zero gives an infinity of the proper sign,
or NaN if the dividend is zero or NaN. -/
def divide (left right : Number) : Except ArithmeticFault Binary64 :=
  if right.isZero then
    if left.isZero then .ok .nan
    else do
      let dividend ← left.toBinary64
      let rightNegative := match right with
        | int _ => false
        | float d => d.isNegative
      return if dividend.isNaN then .nan else .infinite (dividend.isNegative != rightNegative)
  else combine (fun l r => finiteQuotient (Binary64.ofRatio l r)) (· / ·) left right

/-- The floor of the rounded quotient, as an integer when the quotient is finite. -/
def floorDivide (left right : Number) : Except ArithmeticFault Number := do
  let quotient ← left.divide right
  return match quotient.floor? with
    | some n => .int n
    | none => .float quotient

/-- The power of two doubles, where a power of finite numbers without a finite value is taken to be
positive infinity. -/
def powerOfDoubles (ofPositive : Binary64 → Binary64 → Binary64) (base exponent : Binary64) : Number :=
  let power := Binary64.powBy ofPositive base exponent
  if power.isInfinite && !base.isInfinite && !exponent.isInfinite then infinity false
  else .float power

/-- A power of an integer. Exponents of any size are fine for the bases whose powers stay small. -/
def integerPower (base : Int) (exponent : Nat) : Int :=
  if base = 0 then (if exponent = 0 then 1 else 0)
  else if base = 1 then 1
  else if base = -1 then (if exponent % 2 = 0 then 1 else -1)
  else base ^ exponent

theorem integerPower_eq (base : Int) (exponent : Nat) :
    integerPower base exponent = base ^ exponent := by
  unfold integerPower
  split
  · next zero =>
    subst zero
    split
    · next none => simp [none]
    · next some => rw [Int.zero_pow some]
  · split
    · next one => rw [one, Int.one_pow]
    · split
      · next minus =>
        subst minus
        have square : (-1 : Int) ^ (2 : Nat) = 1 := rfl
        obtain ⟨half, rfl | rfl⟩ : ∃ half, exponent = 2 * half ∨ exponent = 2 * half + 1 :=
          ⟨exponent / 2, by omega⟩
        · rw [if_pos (by omega), Int.pow_mul, square, Int.one_pow]
        · rw [if_neg (by omega), Int.pow_succ, Int.pow_mul, square, Int.one_pow, Int.one_mul]
      · rfl

/-- The power of two numbers as doubles. An integer too large for a double makes the power infinite. -/
def powerAsDoubles (ofPositive : Binary64 → Binary64 → Binary64) (base exponent : Number) : Number :=
  match base.toBinary64, exponent.toBinary64 with
  | .ok x, .ok y => powerOfDoubles ofPositive x y
  | _, _ => infinity false

/-- The power of two numbers that have one. Integers with a natural exponent are exact; other powers
go through doubles. -/
def properPower (ofPositive : Binary64 → Binary64 → Binary64) (base exponent : Number) : Number :=
  match base, exponent with
  | int b, int (.ofNat e) => .int (integerPower b e)
  | b, e => powerAsDoubles ofPositive b e

/-- The power of two numbers, given the powers of positive doubles. A negative base has powers only for
whole exponents; whether the exponent is whole is asked of the double that stands for it. -/
def powerBy (ofPositive : Binary64 → Binary64 → Binary64) (base exponent : Number) :
    Except ArithmeticFault Number :=
  if base.isNegative then do
    let whole ← exponent.toBinary64
    return if whole.isInteger then properPower ofPositive base exponent else nan
  else return properPower ofPositive base exponent

/-- The power of two numbers on the platform. -/
def power : Number → Number → Except ArithmeticFault Number := powerBy Binary64.powerOfPositive

/-- A number holds as a condition unless it is zero or NaN. -/
def isTruthy (n : Number) : Except ArithmeticFault Bool := do
  if n.isZero then return false
  let d ← n.toBinary64
  return !d.isNaN

/-- The index that a number denotes, if it is a natural number. -/
def toIndex? (n : Number) : Except ArithmeticFault (Option Nat) := do
  let d ← n.toBinary64
  return match n with
    | int (.ofNat i) => some i
    | int (.negSucc _) => none
    | float _ =>
      if d.isInteger then
        match d.truncate? with
        | some (.ofNat i) => some i
        | _ => none
      else none

/-- The decimal digits of an integer. -/
def integerText : Int → String
  | .ofNat n => String.ofList (Nat.toDigits 10 n)
  | .negSucc n => String.ofList ('-' :: Nat.toDigits 10 (n + 1))

/-- How scripts spell NaN and the infinities. -/
def scriptNames : SpecialNames := ⟨"NaN", "Infinity"⟩

/-- How a script shows a number: whole doubles below `10 ^ 21` look like integers. -/
def text : Number → String
  | int n => integerText n
  | float d =>
    match d with
    | .finite negative units _ =>
      if d.isInteger && units < 10 ^ (21 : Nat) * unitsPerOne then
        integerText (Binary64.signedUnits negative (units / unitsPerOne))
      else d.text scriptNames
    | _ => d.text scriptNames

end Number

end TreeScript
