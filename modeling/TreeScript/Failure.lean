import TreeScript.Builtin.Basic
import TreeScript.Numeric.Numeral
import TreeScript.Operator.Basic
import TreeScript.Text.Quoted
import TreeScript.Ty.Display
import TreeScript.Value.Basic

/-! # How evaluation and inference fail

A *failure* is an error that a script can observe and catch: it has a class, a code and a message. A
*fault* is an error outside the language, which a script cannot catch; a call turns a fault of its
callee into a failure. A *signal* is no error at all but a jump to the enclosing loop or function.
Each of them is given by its cause, and the wording is in one function per type.
-/

namespace TreeScript

/-- Disagreements between types, found by inference or by a declaration. -/
inductive Mismatch where
  /-- A declaration met a value of another kind. -/
  | declared (name : String) (kind : String) (got : String)
  /-- A function declaration met something other than a function literal. -/
  | notLiteral (name : String) (node : String)
  | declaration (name : String) (wanted : String) (actual : Ty)
  | assignment (name : String) (expected actual : Ty)
  | returned (name : String) (expected actual : Ty)
  | notFunction (name : String) (actual : Ty)
  | argumentCount (name : String) (expected got : Nat)
  | argument (index : Nat) (name : String) (expected actual : Ty)
  | operands (operator : Operator) (left right : Ty)
  /-- Two array types whose element types differ. -/
  | joined (left right : Ty)
  | indexType (actual : Ty)
  | indexTarget (actual : Ty)
  | indexValue (value element : Ty)
  | condition (actual : Ty)
  | switchCase (matched expression : Ty)
  | iterable (actual : Ty)

/-- What the operands of an operator were expected to be. -/
def Operator.demand (operator : Operator) : String :=
  match operator.category with
  | .arithmetic => operator.word ++ " requires numeric operands"
  | .comparison => operator.word ++ " requires operands of same type"
  | .boolean => operator.word ++ " requires boolean operands"
  | .concat => "operator 'concat' requires both operands to be arrays"
  | .textConcat => operator.word

def Mismatch.message : Mismatch → String
  | declared name kind got => s!"variable '{name}' expected {kind}, got {got}"
  | notLiteral name node => s!"variable '{name}' expected a function literal, got {node}"
  | declaration name wanted actual =>
    s!"type mismatch in declaration of '{name}': expected {wanted}, got {actual.name}"
  | assignment name expected actual =>
    s!"type mismatch in assignment to '{name}': expected {expected.name}, got {actual.name}"
  | returned name expected actual =>
    s!"return type mismatch in '{name}': expected {expected.name}, got {actual.name}"
  | notFunction name actual => s!"'{name}' is not a function (got {actual.name})"
  | argumentCount name expected got =>
    s!"argument count mismatch in call to '{name}': expected {expected}, got {got}"
  | argument index name expected actual =>
    s!"argument {index} of '{name}': expected {expected.name}, got {actual.name}"
  | operands operator left right => s!"{operator.demand}, got {left.name} and {right.name}"
  | joined left right => s!"operator 'concat' cannot join {left.name} with {right.name}"
  | indexType actual => s!"index must be a number, got {actual.name}"
  | indexTarget actual => s!"index target must be an array, got {actual.name}"
  | indexValue value element =>
    s!"assigned value type {value.name} does not match element type {element.name}"
  | condition actual => s!"condition must be boolean, got {actual.name}"
  | switchCase matched expression =>
    s!"switch case type {matched.name} does not match expression type {expression.name}"
  | iterable actual => s!"target of ForEach must be an array, got {actual.name}"

/-- What was looked for on null or undefined. -/
inductive Member where
  | method (name : String)
  | property (name : String)
  | computed

def Member.text : Member → String
  | method name => s!"method '{name}'"
  | property name => s!"property '{name}'"
  | computed => "property 'computed'"

/-- Operands of the wrong kind. -/
inductive BadOperands where
  | notNumeric (operator : Operator) (left right : Value)
  | notComparable (operator : Operator) (left right : Value)
  /-- Two arrays whose element types differ. -/
  | notJoinable (left right : Ty)

def BadOperands.message : BadOperands → String
  | notNumeric operator left right =>
    s!"operator '{operator.symbol}' requires numeric operands, got "
      ++ s!"{left.describe} and {right.describe}"
  | notComparable operator left right =>
    s!"operator '{operator.symbol}' cannot compare {left.describe} with {right.describe}"
  | notJoinable left right =>
    s!"operator 'concat' cannot join Array<{left.name}> with Array<{right.name}>"

/-- A jump out of the current statement. -/
inductive Signal where
  | returned (value : Value)
  | broken
  | continued

def Signal.keyword : Signal → String
  | returned _ => "return"
  | broken => "break"
  | continued => "continue"

/-- Where a signal was stopped. -/
inductive Place where
  | function (name : String)
  | topLevel (index : Nat) (node : String)

def Place.text : Place → String
  | function name => s!"function {name}"
  | topLevel index node => s!"top-level node {index} ({node})"

/-- Why an integer is not read or not written. -/
inductive BadInteger where
  /-- A text of digits that is not a decimal integer. -/
  | notDecimal (text : String)
  /-- More digits than the text of an integer may have. Where a text is read, they are counted. -/
  | tooLong (limit : Nat) (counted : Option Nat)
  deriving DecidableEq, Repr

def BadInteger.message : BadInteger → String
  | notDecimal text => Numeral.refusal 10 text
  | tooLong limit counted =>
    let count := match counted with
      | some digits => s!": value has {digits} digits"
      | none => ""
    s!"Exceeds the limit ({limit} digits) for integer string conversion{count}; "
      ++ "use sys.set_int_max_str_digits() to increase the limit"

/-- Errors outside the language. -/
inductive Fault where
  | arithmetic (fault : ArithmeticFault)
  | invalidInteger (cause : BadInteger)
  | tooManyArguments (builtin : Builtin) (given : Nat)
  /-- A write so far beyond the end of an array that the gap has no size. -/
  | gapTooLarge
  | outOfMemory
  /-- A name that stands for no character set. -/
  | unknownCharset (name : String)
  /-- A name that stands for a coding of bytes rather than a character set. -/
  | notACharset (name : String)
  /-- A port of a machine that is no number. -/
  | badPort (text : String)
  | portTooLarge
  /-- A control character or a space in an address. -/
  | controlInAddress (text : String) (found : Char)
  deriving DecidableEq, Repr

def Fault.message : Fault → String
  | arithmetic fault => fault.message
  | invalidInteger cause => cause.message
  | tooManyArguments builtin given =>
    let total := given + 1
    match builtin.arity? with
    | some 0 => s!"{builtin.reportName}() takes 1 positional argument but {total} were given"
    | _ => s!"{builtin.reportName}() takes from 1 to 2 positional arguments but {total} were given"
  | gapTooLarge => "cannot fit 'int' into an index-sized integer"
  | outOfMemory => ""
  | unknownCharset name => "unknown encoding: " ++ name
  | notACharset name =>
    s!"'{name}' is not a text encoding; use codecs.decode() to handle arbitrary codecs"
  | badPort text => s!"nonnumeric port: '{text}'"
  | portTooLarge => "Python int too large to convert to C long"
  | controlInAddress text found =>
    s!"URL can't contain control characters. {SourceText.quote text} (found at least "
      ++ SourceText.quote (String.ofList [found]) ++ ")"

/-- Errors that a script can observe. -/
inductive Failure where
  | mismatch (cause : Mismatch)
  | unboundVariable (name : String)
  | unboundType (name : String)
  | unsupportedKind (kind name : String)
  | conditionNotBoolean (got : Value)
  | notAnArray (got : Value)
  | notTwoArrays (left right : Value)
  | notCallable (what : String)
  | argumentCount (expected got : Nat) (callee : String)
  | nullAccess (member : Member)
  | unknownMethod (kind method : String)
  | unknownOperator (token : String)
  | badOperands (cause : BadOperands)
  | functionExecuted (name : String)
  | arrowExecuted
  | straySignal (keyword : String) (place : Place)
  | indexNotNumber (got : Value)
  /-- An index that is a number, given by its text, but no natural number. -/
  | indexNotNatural (text : String)
  | script (message : String)
  | host (name message : String)

namespace Failure

/-- The classes of failures as scripts name them. -/
inductive ErrorClass where
  | unboundName
  | typeMismatch
  | contractViolation
  | scriptError
  | hostError
  deriving DecidableEq, Repr

def ErrorClass.name : ErrorClass → String
  | unboundName => "UnboundNameError"
  | typeMismatch => "TypeMismatchError"
  | contractViolation => "ContractViolation"
  | scriptError => "ScriptError"
  | hostError => "HostError"

def errorClass : Failure → ErrorClass
  | mismatch _ | unsupportedKind _ _ => .typeMismatch
  | unboundVariable _ | unboundType _ => .unboundName
  | script _ => .scriptError
  | host _ _ => .hostError
  | _ => .contractViolation

def code : Failure → String
  | mismatch _ => "E201"
  | unboundVariable _ | unboundType _ => "E202"
  | unsupportedKind _ _ => "E203"
  | conditionNotBoolean _ => "E301"
  | notAnArray _ | notTwoArrays _ _ => "E302"
  | notCallable _ => "E303"
  | argumentCount _ _ _ => "E304"
  | nullAccess _ => "E305"
  | unknownMethod _ _ => "E306"
  | unknownOperator _ => "E307"
  | badOperands _ => "E308"
  | functionExecuted _ | arrowExecuted => "E309"
  | straySignal _ _ => "E310"
  | indexNotNumber _ | indexNotNatural _ => "E311"
  | script _ => "E401"
  | host _ _ => "E402"

def message : Failure → String
  | mismatch cause => cause.message
  | unboundVariable name => s!"undefined variable: {name}"
  | unboundType name => s!"undefined type name: {name}"
  | unsupportedKind kind _ => s!"unsupported variable type: {kind}"
  | conditionNotBoolean got => s!"condition must be boolean, got {got.describe}"
  | notAnArray got => s!"target is not an array (got {got.describe})"
  | notTwoArrays left right =>
    s!"target is not an array (got {left.describe} and {right.describe}; "
      ++ "operator 'concat' requires two arrays)"
  | notCallable what => s!"'{what}' is not callable"
  | argumentCount expected got _ => s!"argument count mismatch: expected {expected}, got {got}"
  | nullAccess member => s!"cannot access {member.text} of null/undefined"
  | unknownMethod kind method => s!"unknown {kind} method: {method}"
  | unknownOperator token => s!"unknown operator: {token}"
  | badOperands cause => cause.message
  | functionExecuted name => s!"function literal '{name}' cannot be executed directly"
  | arrowExecuted => "arrow function cannot be executed directly"
  | straySignal keyword _ => s!"'{keyword}' used outside of its enclosing construct"
  | indexNotNumber got => s!"index must be a number, got {got.describe}"
  | indexNotNatural text => s!"index must be a non-negative integer, got {text}"
  | script message => message
  | host name message => s!"{name} failed: {message}"

/-- The place that a failure itself points to. -/
def place? : Failure → Option String
  | unsupportedKind _ name => some s!"declaration of '{name}'"
  | argumentCount _ _ callee => some s!"call to {callee}"
  | straySignal _ place => some place.text
  | _ => none

def hints : Failure → List String
  | unsupportedKind _ _ =>
    ["supported kinds: number, string, boolean, null, undefined, bigint, symbol, array, object, "
      ++ "function"]
  | functionExecuted _ | arrowExecuted =>
    ["function literals are converted to closures in declarations of kind 'function' and in "
      ++ "call arguments"]
  | _ => []

end Failure

end TreeScript
