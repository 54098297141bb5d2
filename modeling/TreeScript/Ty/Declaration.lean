import TreeScript.Ty.Basic
import TreeScript.Value.Basic

/-! # Kinds of declarations

A declaration names the kind of value it admits. Evaluation and inference read the same table: the
kind of the value, and the type that the initial expression must have. Scalar kinds admit one type;
arrays, objects and functions admit any type of the right shape.
-/

namespace TreeScript

inductive DeclarationKind where
  | number
  | string
  | boolean
  | null
  | undefined
  | bigint
  | symbol
  | array
  | object
  | function
  deriving DecidableEq, Repr

namespace DeclarationKind

def all : List DeclarationKind :=
  [number, string, boolean, null, undefined, bigint, symbol, array, object, function]

def name : DeclarationKind → String
  | number => "number"
  | string => "string"
  | boolean => "boolean"
  | null => "null"
  | undefined => "undefined"
  | bigint => "bigint"
  | symbol => "symbol"
  | array => "array"
  | object => "object"
  | function => "function"

def ofName? (name : String) : Option DeclarationKind := all.find? (·.name == name)

/-- Whether a declaration of this kind may be bound to a value. -/
def admits : DeclarationKind → Value → Bool
  | number, .number _ => true
  | string, .string _ => true
  | boolean, .bool _ => true
  | null, .null => true
  | undefined, .undefined => true
  | bigint, .bigint _ => true
  | symbol, .symbol _ => true
  | array, .array _ => true
  | object, .object _ => true
  | function, .function _ => true
  | _, _ => false

/-- The type that an initial expression of type `actual` must have, if any will do. -/
def expectedType? (kind : DeclarationKind) (actual : Ty) : Option Ty :=
  match kind with
  | number => some .number
  | string => some .string
  | boolean => some .boolean
  | null => some .null
  | undefined => some .undefined
  | bigint => some .bigint
  | symbol => some .symbol
  | array => if actual.isArray then some actual else none
  | object => if actual.isObject then some actual else none
  | function => if actual.isFunction then some actual else none

end DeclarationKind

end TreeScript
