import TreeScript.Ty.Basic

/-! # Types as text -/

namespace TreeScript.Ty

/-- Texts with a comma and a space between each two. -/
def commaSeparated : List (List Char) → List Char
  | [] => []
  | [text] => text
  | text :: rest => text ++ ',' :: ' ' :: commaSeparated rest

mutual

/-- The display of a type. -/
def chars : Ty → List Char
  | prim tag => tag.name.toList
  | array element => "Array<".toList ++ chars element ++ ['>']
  | object [] => "\x7b \x7d".toList
  | object properties =>
    "\x7b ".toList ++ commaSeparated (charsOfProperties properties) ++ " \x7d".toList
  | function params result _ =>
    '(' :: (commaSeparated (charsOfAll params) ++ ") => ".toList ++ chars result)

def charsOfAll : List Ty → List (List Char)
  | [] => []
  | type :: rest => chars type :: charsOfAll rest

def charsOfProperties : List (String × Ty) → List (List Char)
  | [] => []
  | (name, type) :: rest => (name.toList ++ ": ".toList ++ chars type) :: charsOfProperties rest

end

/-- The name of a type as diagnostics show it. -/
def name (type : Ty) : String := String.ofList type.chars

end TreeScript.Ty
