import TreeScript.Store.Text
import TreeScript.Ty.Basic

/-! # Pictures of values

A picture is a value written out as a tree: what an array or object held when the picture was taken.
Only values without cycles have one. The type of a value and the key under which a memoized function
remembers its arguments are read off the picture.
-/

namespace TreeScript

/-- The sorts of cells that a key tells apart. -/
inductive ReferenceSort where
  | symbol
  | closure
  | arrow
  /-- Built-in and memoized functions. -/
  | function
  deriving DecidableEq, Repr

def ReferenceSort.name : ReferenceSort → String
  | symbol => "Symbol"
  | closure => "Closure"
  | arrow => "ArrowClosure"
  | function => "function"

inductive Picture where
  | undefined
  | null
  | bool (value : Bool)
  | number (value : Number)
  | bigint (value : Int)
  | string (value : String)
  | array (elements : List Picture)
  | object (entries : List (String × Picture))
  /-- A symbol or a function, known by its identity only. -/
  | reference (sort : ReferenceSort) (id : Nat)

def Callable.sort : Callable → ReferenceSort
  | builtin _ | memoized _ _ => .function
  | closure _ => .closure
  | arrow _ _ _ => .arrow

namespace Store

/-- The picture of a value whose cells are nested at most `bound` deep. Functions are drawn by the numbers
that they are known by. -/
def pictureWithin (store : Store) (identity : FunctionRef → Nat) : Nat → Value → Option Picture
  | _, .undefined => some .undefined
  | _, .null => some .null
  | _, .bool value => some (.bool value)
  | _, .number value => some (.number value)
  | _, .bigint value => some (.bigint value)
  | _, .string text => some (.string text)
  | _, .symbol value => some (.reference .symbol value.id)
  | _, .function ref =>
    some (.reference (((store.functions[ref]?).map Callable.sort).getD .function) (identity ref))
  | 0, .array _ | 0, .object _ => none
  | bound + 1, .array ref => do
    let elements ← (store.elements ref).toList.mapM (store.pictureWithin identity bound)
    return .array elements
  | bound + 1, .object ref => do
    let entries ← (store.entries ref).mapM fun (name, value) => do
      return (name, ← store.pictureWithin identity bound value)
    return .object entries

def picture? (store : Store) (value : Value) (identity : FunctionRef → Nat := id) : Option Picture :=
  store.pictureWithin identity store.depth value

end Store

namespace Picture

mutual

/-- The type of a value: arrays and objects recursively, functions as `any`. -/
def type : Picture → Ty
  | undefined => .undefined
  | null => .null
  | bool _ => .boolean
  | number _ => .number
  | bigint _ => .bigint
  | string _ => .string
  | array elements => .array (Ty.common (types elements))
  | object entries => Ty.ofProperties (typesOfEntries entries)
  | reference .symbol _ => .symbol
  | reference _ _ => .any

def types : List Picture → List Ty
  | [] => []
  | picture :: rest => picture.type :: types rest

def typesOfEntries : List (String × Picture) → List (String × Ty)
  | [] => []
  | (name, picture) :: rest => (name, picture.type) :: typesOfEntries rest

end

/-- How keys spell NaN and the infinities. -/
def keyNames : SpecialNames := ⟨"NaN", "Infinity"⟩

/-- A number in a key; whole doubles keep their point. -/
def numberKey : Number → List Char
  | .int n => (Number.integerText n).toList
  | .float d => (d.text keyNames).toList

/-- Texts with a comma and a blank between each two. -/
def listed : List (List Char) → List Char
  | [] => []
  | [text] => text
  | text :: rest => text ++ ',' :: ' ' :: listed rest

def inBrackets (texts : List (List Char)) : List Char := '[' :: (listed texts ++ [']'])

def inBraces (texts : List (List Char)) : List Char := '\x7b' :: (listed texts ++ ['\x7d'])

/-- A named member of a key. -/
def member (name : String) (text : List Char) : List Char :=
  AsciiText.quoteChars name.toList ++ ':' :: ' ' :: text

/-- Write a member into a list kept in increasing order of names. -/
def insertMember (name : String) (text : List Char) :
    List (String × List Char) → List (String × List Char)
  | [] => [(name, text)]
  | (other, old) :: rest =>
    if name ≤ other then (name, text) :: (other, old) :: rest
    else (other, old) :: insertMember name text rest

mutual

/-- The key of one argument. Kinds that would look alike are marked, and the members of an object
are written in increasing order of their names. -/
def keyChars : Picture → List Char
  | undefined => inBraces [member "$undefined" "true".toList]
  | null => "null".toList
  | bool value => (if value then "true" else "false").toList
  | number value => numberKey value
  | bigint value =>
    inBraces [member "$bigint" (AsciiText.quoteChars (Number.integerText value).toList)]
  | string value => AsciiText.quoteChars value.toList
  | array elements => inBrackets (keyCharsOfAll elements)
  | object entries =>
    inBraces [member "$object"
      (inBraces ((membersOf entries).map fun (name, text) => member name text))]
  | reference sort id =>
    inBraces [member "$ref"
      (AsciiText.quoteChars (sort.name.toList ++ '@' :: Nat.toDigits 16 id))]

def keyCharsOfAll : List Picture → List (List Char)
  | [] => []
  | picture :: rest => picture.keyChars :: keyCharsOfAll rest

def membersOf : List (String × Picture) → List (String × List Char)
  | [] => []
  | (name, picture) :: rest => insertMember name picture.keyChars (membersOf rest)

end

end Picture

namespace Store

/-- The type of a value. -/
def type? (store : Store) (value : Value) : Option Ty := (store.picture? value).map Picture.type

/-- The key under which a memoized function remembers a list of arguments. -/
def key? (store : Store) (args : List Value) (identity : FunctionRef → Nat := id) : Option String := do
  let pictures ← args.mapM (store.picture? · identity)
  return String.ofList (Picture.inBrackets (pictures.map Picture.keyChars))

end Store

end TreeScript
