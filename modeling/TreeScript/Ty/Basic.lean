import TreeScript.Builtin.Basic

/-! # Types

Types are trees: nine primitive types, arrays, objects and functions. The properties of an object
type are kept in increasing order of their names. A function type remembers the built-in whose
signature it is, which neither equality nor display looks at. The type `any` equals only itself.
-/

namespace TreeScript

inductive Primitive where
  | number
  | string
  | boolean
  | null
  | undefined
  | bigint
  | symbol
  | void
  | any
  deriving DecidableEq, Repr

namespace Primitive

def all : List Primitive :=
  [number, string, boolean, null, undefined, bigint, symbol, void, any]

def name : Primitive → String
  | number => "number"
  | string => "string"
  | boolean => "boolean"
  | null => "null"
  | undefined => "undefined"
  | bigint => "bigint"
  | symbol => "symbol"
  | void => "void"
  | any => "any"

def ofName? (name : String) : Option Primitive := all.find? (·.name == name)

end Primitive

/-- A type. `builtin` is the built-in that a function type is the signature of, if any. -/
inductive Ty where
  | prim (tag : Primitive)
  | array (element : Ty)
  | object (properties : List (String × Ty))
  | function (params : List Ty) (result : Ty) (builtin : Option Builtin)

namespace Ty

instance : Inhabited Ty := ⟨prim .any⟩

def number : Ty := prim .number
def string : Ty := prim .string
def boolean : Ty := prim .boolean
def null : Ty := prim .null
def undefined : Ty := prim .undefined
def bigint : Ty := prim .bigint
def symbol : Ty := prim .symbol
def void : Ty := prim .void
def any : Ty := prim .any

/-- Write a property into a list kept in increasing order of names. -/
def insertProperty (name : String) (type : Ty) : List (String × Ty) → List (String × Ty)
  | [] => [(name, type)]
  | (other, old) :: rest =>
    if name < other then (name, type) :: (other, old) :: rest
    else if name = other then (name, type) :: rest
    else (other, old) :: insertProperty name type rest

/-- The object type with the given properties; of a repeated name the last type counts. -/
def ofProperties (properties : List (String × Ty)) : Ty :=
  object (properties.foldl (fun known (name, type) => insertProperty name type known) [])

/-- The function type of a function that is not built in. -/
def arrow (params : List Ty) (result : Ty) : Ty := function params result none

/-- The type of a property in a list of properties. -/
def property? (properties : List (String × Ty)) (name : String) : Option Ty :=
  (properties.find? (·.1 == name)).map (·.2)

def isArray : Ty → Bool
  | array _ => true
  | _ => false

def isObject : Ty → Bool
  | object _ => true
  | _ => false

def isFunction : Ty → Bool
  | function _ _ _ => true
  | _ => false

mutual

/-- Structural equality: functions by parameters and result, arrays by element, objects by the set
of their property names and the type of each. -/
def same : Ty → Ty → Bool
  | prim left, prim right => left == right
  | array left, array right => same left right
  | function params result _, function otherParams otherResult _ =>
    sameAll params otherParams && same result otherResult
  | object properties, object others =>
    others.all (fun other => properties.any (·.1 == other.1)) && sameIn properties others
  | _, _ => false

/-- Equal types position by position. -/
def sameAll : List Ty → List Ty → Bool
  | [], [] => true
  | left :: lefts, right :: rights => same left right && sameAll lefts rights
  | _, _ => false

/-- Every property has an equal type in the other list. -/
def sameIn : List (String × Ty) → List (String × Ty) → Bool
  | [], _ => true
  | (name, type) :: rest, others =>
    (match property? others name with
      | some other => same type other
      | none => false) && sameIn rest others

end

/-- The type `any`, which stands for a mixture or an unknown. -/
def isAny : Ty → Bool
  | prim .any => true
  | _ => false

/-- The common type of the elements of an array, `any` if there is none. -/
def common : List Ty → Ty
  | [] => any
  | first :: rest => if rest.all (same first) then first else any

end Ty

end TreeScript
