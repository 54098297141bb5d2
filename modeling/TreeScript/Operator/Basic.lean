/-! # Binary operators

Every operator has two spellings, a symbol and a word; both name the same operator, so evaluation
and inference cannot disagree about what it is.
-/

namespace TreeScript

inductive Operator where
  | plus
  | minus
  | times
  | divide
  | floorDivide
  | power
  | equal
  | notEqual
  | less
  | lessEqual
  | greater
  | greaterEqual
  | and
  | or
  | concat
  | textConcat
  deriving DecidableEq, Repr

/-- What an operator works on. -/
inductive Operator.Category where
  | arithmetic
  | comparison
  | boolean
  | concat
  | textConcat
  deriving DecidableEq, Repr

namespace Operator

def all : List Operator :=
  [plus, minus, times, divide, floorDivide, power, equal, notEqual, less, lessEqual, greater,
   greaterEqual, and, or, concat, textConcat]

def symbol : Operator → String
  | plus => "+"
  | minus => "-"
  | times => "*"
  | divide => "/"
  | floorDivide => "//"
  | power => "^"
  | equal => "=="
  | notEqual => "!=="
  | less => "<"
  | lessEqual => "<="
  | greater => ">"
  | greaterEqual => ">="
  | and => "&&"
  | or => "||"
  | concat => "concat"
  | textConcat => "><"

def word : Operator → String
  | plus => "o_plus"
  | minus => "o_minus"
  | times => "o_mul"
  | divide => "o_div"
  | floorDivide => "o_idiv"
  | power => "o_pow"
  | equal => "o_eq"
  | notEqual => "o_neq"
  | less => "o_lt"
  | lessEqual => "o_lte"
  | greater => "o_gt"
  | greaterEqual => "o_gte"
  | and => "o_and"
  | or => "o_or"
  | concat => "o_concat"
  | textConcat => "o_strcat"

def category : Operator → Category
  | plus | minus | times | divide | floorDivide | power => .arithmetic
  | equal | notEqual | less | lessEqual | greater | greaterEqual => .comparison
  | and | or => .boolean
  | concat => .concat
  | textConcat => .textConcat

def Category.name : Category → String
  | .arithmetic => "arithmetic"
  | .comparison => "comparison"
  | .boolean => "boolean"
  | .concat => "concat"
  | .textConcat => "string-concat"

/-- The operator with a spelling, of either kind. -/
def ofToken? (token : String) : Option Operator :=
  all.find? fun operator => operator.symbol == token || operator.word == token

end Operator

end TreeScript
