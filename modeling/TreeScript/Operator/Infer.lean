import TreeScript.Failure

/-! # Operators applied to types -/

namespace TreeScript.Operator

/-- The type of the result of an operator, given the types of its operands. -/
def infer (operator : Operator) (left right : Ty) : Except Failure Ty :=
  let mismatch := Except.error (.mismatch (.operands operator left right))
  match operator.category with
  | .arithmetic => if left.same .number && right.same .number then .ok .number else mismatch
  | .comparison => if left.same right then .ok .boolean else mismatch
  | .boolean => if left.same .boolean && right.same .boolean then .ok .boolean else mismatch
  | .concat =>
    match left, right with
    | .array leftElement, .array rightElement =>
      if leftElement.same rightElement then .ok (.array leftElement)
      else if leftElement.isAny || rightElement.isAny then .ok (.array .any)
      else .error (.mismatch (.joined left right))
    | _, _ => mismatch
  | .textConcat => .ok .string

end TreeScript.Operator
