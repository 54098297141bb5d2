/-! # The built-in functions by name -/

namespace TreeScript

/-- The functions that every root frame starts with. -/
inductive Builtin where
  | print
  | typeOf
  | now
  | random
  | isNaN
  | abs
  | sqrt
  | floor
  | ceil
  | fetch
  deriving DecidableEq, Repr

namespace Builtin

/-- The built-ins in the order in which they are installed. -/
def all : List Builtin := [print, typeOf, now, random, isNaN, abs, sqrt, floor, ceil, fetch]

def name : Builtin → String
  | print => "print"
  | typeOf => "typeOf"
  | now => "now"
  | random => "random"
  | isNaN => "isNaN"
  | abs => "abs"
  | sqrt => "sqrt"
  | floor => "floor"
  | ceil => "ceil"
  | fetch => "fetch"

def ofName? (name : String) : Option Builtin := all.find? (·.name == name)

/-- What a built-in does, in a sentence. -/
def summary : Builtin → String
  | print => "Write the arguments, space separated, to the output sink."
  | typeOf => "Runtime kind name of a value ('array' for arrays)."
  | now => "Milliseconds since the Unix epoch."
  | random => "Uniform float in [0, 1)."
  | isNaN => "True if the value coerces to NaN."
  | abs => "Absolute value."
  | sqrt => "Square root (NaN for negative input)."
  | floor => "Largest integer <= x."
  | ceil => "Smallest integer >= x."
  | fetch => "GET a URL and return the response body as text."

/-- The most arguments that a built-in takes; `print` takes any number. -/
def arity? : Builtin → Option Nat
  | print => none
  | now | random => some 0
  | _ => some 1

/-- The name under which a built-in reports a wrong number of arguments. -/
def reportName : Builtin → String
  | print => "print"
  | typeOf => "BuiltinRegistry._register_utility_functions.<locals>._type_of"
  | now => "BuiltinRegistry._register_utility_functions.<locals>._now"
  | random => "BuiltinRegistry._register_utility_functions.<locals>._random"
  | isNaN => "BuiltinRegistry._register_utility_functions.<locals>._is_nan"
  | abs | floor | ceil =>
    "BuiltinRegistry._register_math_functions.<locals>._finite_or_self.<locals>.impl"
  | sqrt => "BuiltinRegistry._register_math_functions.<locals>._sqrt"
  | fetch => "BuiltinRegistry._register_network_functions.<locals>._fetch"

end Builtin

end TreeScript
