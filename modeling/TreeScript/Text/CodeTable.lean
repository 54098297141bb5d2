/-! # Sets of characters given by ranges of code points -/

namespace TreeScript

/-- Inclusive ranges of code points, in increasing order. -/
abbrev CodeTable := List (Nat × Nat)

/-- The ranges that are given by the lengths of the stretches outside and inside of them, in turn. -/
def CodeTable.ofStretches (start : Nat) : List Nat → CodeTable
  | outside :: inside :: rest =>
    (start + outside, start + outside + inside - 1) :: ofStretches (start + outside + inside) rest
  | _ => []

/-- Whether a character lies in one of the ranges. -/
def CodeTable.holds (table : CodeTable) (c : Char) : Bool :=
  table.any fun (first, last) => first ≤ c.toNat && c.toNat ≤ last

end TreeScript
