import TreeScript.Numeric.Numeral
import TreeScript.Text.Casing
import TreeScript.Ty.Basic

/-! # Methods of texts, arrays and numbers by name -/

namespace TreeScript

inductive TextMethod where
  | length
  | toUpperCase
  | toLowerCase
  | slice
  | parseInt
  | parseFloat
  deriving DecidableEq, Repr

inductive ArrayMethod where
  | length
  | push
  | pop
  | map
  | filter
  deriving DecidableEq, Repr

inductive NumberMethod where
  | toString
  deriving DecidableEq, Repr

namespace TextMethod

def ofName? : String → Option TextMethod
  | "length" => some length
  | "toUpperCase" => some toUpperCase
  | "toLowerCase" => some toLowerCase
  | "slice" => some slice
  | "parseInt" => some parseInt
  | "parseFloat" => some parseFloat
  | _ => none

def resultType : TextMethod → Ty
  | length | parseInt | parseFloat => .number
  | toUpperCase | toLowerCase | slice => .string

end TextMethod

namespace ArrayMethod

def ofName? : String → Option ArrayMethod
  | "length" => some length
  | "push" => some push
  | "pop" => some pop
  | "map" => some map
  | "filter" => some filter
  | _ => none

/-- The type of the result on an array with elements of the given type. -/
def resultType (element : Ty) : ArrayMethod → Ty
  | length | push => .number
  | pop => element
  | map | filter => .array .any

end ArrayMethod

namespace NumberMethod

def ofName? : String → Option NumberMethod
  | "toString" => some toString
  | _ => none

def resultType : NumberMethod → Ty
  | toString => .string

end NumberMethod

/-- The type of the result of a method on a receiver of the given type, `any` where nothing is
known. -/
def inferMethod (target : Ty) (method : String) : Ty :=
  match target with
  | .prim .string => ((TextMethod.ofName? method).map TextMethod.resultType).getD .any
  | .prim .number => ((NumberMethod.ofName? method).map NumberMethod.resultType).getD .any
  | .array element => ((ArrayMethod.ofName? method).map (ArrayMethod.resultType element)).getD .any
  | _ => .any

end TreeScript
