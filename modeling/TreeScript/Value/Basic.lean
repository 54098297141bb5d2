import TreeScript.Numeric.Number

/-! # Script values

Scalars are values in themselves. Arrays, objects and functions are references to cells of a store,
so they have an identity, which is what strict equality compares.
-/

namespace TreeScript

/-- A symbol is unique: its identity is its number, not its description. -/
structure Symbol where
  id : Nat
  description : String
  deriving DecidableEq

abbrev ArrayRef := Nat
abbrev ObjectRef := Nat
abbrev FunctionRef := Nat

inductive Value where
  | undefined
  | null
  | bool (value : Bool)
  | number (value : Number)
  | bigint (value : Int)
  | string (value : String)
  | symbol (value : Symbol)
  | array (ref : ArrayRef)
  | object (ref : ObjectRef)
  | function (ref : FunctionRef)
  deriving DecidableEq

/-- The kinds of values that a script can tell apart. -/
inductive Kind where
  | undefined
  | object
  | boolean
  | bigint
  | number
  | string
  | symbol
  | array
  | function
  deriving DecidableEq, Repr

def Kind.name : Kind → String
  | undefined => "undefined"
  | object => "object"
  | boolean => "boolean"
  | bigint => "bigint"
  | number => "number"
  | string => "string"
  | symbol => "symbol"
  | array => "array"
  | function => "function"

namespace Value

instance : Inhabited Value := ⟨undefined⟩

def int (n : Int) : Value := number (.int n)

/-- The kind of a value; null is of the kind of objects. -/
def kind : Value → Kind
  | undefined => .undefined
  | null => .object
  | bool _ => .boolean
  | number _ => .number
  | bigint _ => .bigint
  | string _ => .string
  | symbol _ => .symbol
  | array _ => .array
  | object _ => .object
  | function _ => .function

/-- The kind of a value as error messages name it, which tells null from objects. -/
def describe : Value → String
  | null => "null"
  | value => value.kind.name

def isUndefined : Value → Bool
  | undefined => true
  | _ => false

/-- The values that have neither properties nor methods. -/
def isNullish : Value → Bool
  | undefined | null => true
  | _ => false

def isNumber : Value → Bool
  | number _ => true
  | _ => false

def isFunction : Value → Bool
  | function _ => true
  | _ => false

/-- Strict equality: the same kind and, for scalars, the same value; numbers by their value whatever
their form; identity for symbols, arrays, objects and functions. -/
def strictEquals : Value → Value → Bool
  | undefined, undefined => true
  | null, null => true
  | bool left, bool right => left == right
  | number left, number right => left.compare? right == some .eq
  | bigint left, bigint right => left == right
  | string left, string right => left == right
  | symbol left, symbol right => left.id == right.id
  | array left, array right => left == right
  | object left, object right => left == right
  | function left, function right => left == right
  | _, _ => false

/-- Whether a value holds as a condition of a logical operator. -/
def isTruthy : Value → Except ArithmeticFault Bool
  | undefined | null => .ok false
  | bool value => .ok value
  | number value => value.isTruthy
  | bigint value => .ok (value != 0)
  | string value => .ok !value.isEmpty
  | _ => .ok true

end Value

end TreeScript
