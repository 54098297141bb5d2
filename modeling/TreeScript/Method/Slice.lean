import TreeScript.Numeric.Number

/-! # Slices of texts

A bound of a slice is a position between the ends of the text. Negative numbers count from the end,
fractions are cut toward zero, and numbers beyond an end stand for that end.
-/

namespace TreeScript.Slice

/-- The position that a whole number denotes in a text of the given length. -/
def clamp (length : Nat) : Int → Nat
  | .ofNat n => min n length
  | .negSucc n => length - (n + 1)

/-- The position that a number denotes in a text of the given length. -/
def position (length : Nat) : Number → Nat
  | .int n => clamp length n
  | .float .nan => 0
  | .float (.infinite negative) => if negative then 0 else length
  | .float d => clamp length (d.truncate?.getD 0)

/-- The characters from `start` up to, not including, `stop`. -/
def cut (text : String) (start stop : Nat) : String :=
  String.ofList ((text.toList.drop start).take (stop - start))

end TreeScript.Slice
