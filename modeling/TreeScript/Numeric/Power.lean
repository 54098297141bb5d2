import TreeScript.Numeric.Binary64

/-! # Powers of doubles

The exceptional cases of a power (zeros, infinities, NaN, negative bases) are decided here; only a
positive base other than one with a finite exponent other than zero is left to the platform's power
function, which is reached through the 64-bit encoding of doubles.
-/

namespace TreeScript.Binary64

-- Powers are those of the core library, whatever else is in scope.
attribute [local instance (high)] instPowNat

/-- The 64-bit interchange encoding: sign, biased exponent, fraction. -/
def encode : Binary64 → UInt64
  | nan => 0x7ff8000000000000
  | infinite negative => sign negative ||| 0x7ff0000000000000
  | finite negative units _ =>
    let shift := units.log2 - 52
    let fraction := units >>> shift
    let magnitude :=
      if fraction < 2 ^ (52 : Nat) then fraction else (shift + 1) * 2 ^ (52 : Nat) + (fraction - 2 ^ (52 : Nat))
    sign negative ||| magnitude.toUInt64
where
  sign (negative : Bool) : UInt64 := if negative then 0x8000000000000000 else 0

/-- The double with a given 64-bit encoding. -/
def decode (bits : UInt64) : Binary64 :=
  let negative := bits &&& 0x8000000000000000 != 0
  let exponent := ((bits >>> 52) &&& 0x7ff).toNat
  let fraction := (bits &&& 0xfffffffffffff).toNat
  if exponent = 0x7ff then
    if fraction = 0 then infinite negative else nan
  else
    let units := if exponent = 0 then fraction else (fraction + 2 ^ (52 : Nat)) <<< (exponent - 1)
    ofQuotient negative units 1

/-- Whether a double is an odd whole number. -/
def isOdd : Binary64 → Bool
  | finite _ units _ => units % (2 * unitsPerOne) == unitsPerOne
  | _ => false

/-- The number one. -/
def one : Binary64 := ofInt 1

/-- The platform's power of a positive base. -/
def powerOfPositive (base exponent : Binary64) : Binary64 :=
  decode (Float.pow (Float.ofBits base.encode) (Float.ofBits exponent.encode)).toBits

/-- The power of two doubles, given the powers of positive bases. A zero base with a negative exponent
is infinite; a negative base has powers only for whole exponents. -/
def powBy (ofPositive : Binary64 → Binary64 → Binary64) (base exponent : Binary64) : Binary64 :=
  if exponent.isZero then one
  else match base, exponent with
    | nan, _ => nan
    | base, nan => if base = one then one else nan
    | finite _ units _, infinite negative =>
      if units = unitsPerOne then one
      else if negative == decide (units < unitsPerOne) then infinite false
      else zero false
    | infinite _, infinite negative => if negative then zero false else infinite false
    | infinite negative, exponent =>
      let sign := negative && exponent.isOdd
      if exponent.isNegative then zero sign else infinite sign
    | finite negative units representable, exponent =>
      let sign := negative && exponent.isOdd
      if units = 0 then
        if exponent.isNegative then infinite sign else zero sign
      else if negative && !exponent.isInteger then nan
      else
        let power :=
          if units = unitsPerOne then one
          else ofPositive (finite false units representable) exponent
        if sign then power.neg else power

end TreeScript.Binary64
