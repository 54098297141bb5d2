import TreeScript.Exec

/-! # Operators applied to values

Both operands are values already. Arithmetic and ordering take numbers or texts, equality takes
anything, the logical operators go by truth, and the two concatenations join arrays and texts.
-/

namespace TreeScript.Operator

/-- Arithmetic on two numbers. -/
def calculate (operator : Operator) (left right : Number) : Except ArithmeticFault Number :=
  match operator with
  | plus => left.add right
  | minus => left.sub right
  | times => left.mul right
  | divide => (left.divide right).map .float
  | floorDivide => left.floorDivide right
  | _ => left.power right

/-- Whether an ordering operator holds of two things that compare in the given way; things that do
not compare are in no order. -/
def holds (operator : Operator) (ordering : Option Ordering) : Bool :=
  match operator, ordering with
  | less, some .lt => true
  | lessEqual, some .lt | lessEqual, some .eq => true
  | greater, some .gt => true
  | greaterEqual, some .gt | greaterEqual, some .eq => true
  | _, _ => false

/-- The order of two texts, by code points. -/
def compareTexts (left right : String) : Ordering :=
  if left < right then .lt else if left = right then .eq else .gt

/-- The common type of the elements of an array. -/
def elementType (elements : Array Value) : Exec Ty := do
  return Ty.common (← Exec.each Exec.typeOf elements.toList)

/-- Join two arrays whose element types agree, or of which one has none. -/
def join (left right : ArrayRef) : Exec Value := do
  let leftElements ← Exec.read (·.elements left)
  let rightElements ← Exec.read (·.elements right)
  let leftType ← elementType leftElements
  let rightType ← elementType rightElements
  if leftType.isAny || rightType.isAny || leftType.same rightType then
    Exec.newArray (leftElements ++ rightElements)
  else Exec.fail (.badOperands (.notJoinable leftType rightType))

def applyArithmetic (operator : Operator) : Value → Value → Exec Value
  | .number left, .number right => do
    return .number (← Exec.ofArithmetic (operator.calculate left right))
  | .string left, .string right =>
    if operator = plus then return .string (left ++ right)
    else Exec.fail (.badOperands (.notNumeric operator (.string left) (.string right)))
  | left, right => Exec.fail (.badOperands (.notNumeric operator left right))

def applyComparison (operator : Operator) (left right : Value) : Exec Value :=
  match operator, left, right with
  | equal, left, right => return .bool (left.strictEquals right)
  | notEqual, left, right => return .bool !(left.strictEquals right)
  | operator, .number left, .number right => return .bool (operator.holds (left.compare? right))
  | operator, .string left, .string right =>
    return .bool (operator.holds (some (compareTexts left right)))
  | operator, left, right => Exec.fail (.badOperands (.notComparable operator left right))

/-- A logical operator; the right operand counts only if the left one does not decide. -/
def applyBoolean (operator : Operator) (left right : Value) : Exec Value := do
  let leftHolds ← Exec.ofArithmetic left.isTruthy
  if leftHolds = (operator == and) then return .bool (← Exec.ofArithmetic right.isTruthy)
  else return .bool leftHolds

/-- Apply an operator to two values. -/
def apply (operator : Operator) (left right : Value) : Exec Value :=
  match operator.category with
  | .arithmetic => operator.applyArithmetic left right
  | .comparison => operator.applyComparison left right
  | .boolean => operator.applyBoolean left right
  | .concat =>
    match left, right with
    | .array left, .array right => join left right
    | left, right => Exec.fail (.notTwoArrays left right)
  | .textConcat => do
    let leftText ← Exec.textOf left
    let rightText ← Exec.textOf right
    return .string (leftText ++ rightText)

theorem apply_of_calculate {operator : Operator} {left right result : Number}
    (arithmetic : operator.category = .arithmetic) (calculated : operator.calculate left right = .ok result)
    (host : Host) (store : Store) :
    operator.apply (.number left) (.number right) host store = .done (.number result) store := by
  unfold apply
  rw [arithmetic]
  change (Exec.ofArithmetic (operator.calculate left right) >>= _) host store = _
  rw [calculated]
  rfl

end TreeScript.Operator
