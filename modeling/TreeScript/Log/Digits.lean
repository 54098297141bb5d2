import TreeScript.Numeric.Number
import TreeScript.Numeric.Rounded

/-! # Numbers on log lines

A number is written as a sign, a mark of its base and its digits, so that padding can go between
them.
-/

namespace TreeScript.Log

/-- The parts of a written number. -/
structure Digits where
  negative : Bool
  mark : List Char
  body : List Char

namespace Digits

/-- An integer in a base; hexadecimal digits may be in upper case. -/
def ofInt (base : Nat) (isUpper : Bool) (mark : List Char) (n : Int) : Digits :=
  let digits := Nat.toDigits base n.natAbs
  ⟨n < 0, mark, if isUpper then digits.map Char.toUpper else digits⟩

/-- A double in the notation that a letter asks for. -/
def ofDouble (letter : Char) (keepsPoint : Bool) (precision : Nat) (d : Binary64) : Digits :=
  let body := match d with
    | .nan => "nan".toList
    | .infinite _ => "inf".toList
    | .finite _ units _ =>
      match letter.toLower with
      | 'e' => Rounded.exponential keepsPoint precision units
      | 'g' => Rounded.general keepsPoint precision units
      | _ => Rounded.fixed keepsPoint precision units
  let negative := match d with
    | .finite negative _ _ | .infinite negative => negative
    | .nan => false
  ⟨negative, [], if letter.isUpper then body.map Char.toUpper else body⟩

/-- The sign to be written: one that is due to the number, or else the one given. -/
def sign (digits : Digits) (positive : List Char) : List Char :=
  if digits.negative then ['-'] else positive

end Digits

/-- The double that a field stands for, if it is a number. -/
def doubleOf? : Number → Option Binary64
  | .int n => Binary64.ofInt? n
  | .float d => some d

end TreeScript.Log
