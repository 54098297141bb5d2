import TreeScript.Program.LoadError
import TreeScript.Ty.Basic

/-! # Types in documents

A type is a primitive name, or a mapping with one key: `array` over a type, `object` over a mapping
of types, or `function` over a mapping with `params` and `returns`.
-/

namespace TreeScript

/-- The primitive type with a name. -/
def Ty.ofName (name : String) : Except LoadError Ty :=
  match Primitive.ofName? name with
  | some tag => .ok (.prim tag)
  | none => .error (.malformed (.unknownType name))

/-- A key read as a type. -/
def Ty.ofKey : Scalar → Except LoadError Ty
  | .string name => Ty.ofName name
  | other => .error (.malformed (.notAType (.scalar other)))

mutual

/-- The type that a document describes. -/
def Ty.ofDocument (document : Document) : Except LoadError Ty :=
  match document with
  | .scalar key => Ty.ofKey key
  | .mapping [(.string "array", element)] => do
    return .array (← Ty.ofDocument element)
  | .mapping [(.string "object", .mapping properties)] => do
    return .ofProperties (← Ty.ofMembers properties)
  | .mapping [(.string "function", .mapping parts)] => do
    let params ← Ty.paramsIn parts
    let result ← Ty.resultIn parts
    return .arrow params result
  | other => .error (.malformed (.notAType other))

/-- The types of the members of a mapping. -/
def Ty.ofMembers : List (Scalar × Document) → Except LoadError (List (String × Ty))
  | [] => return []
  | (key, document) :: rest => do
    let type ← Ty.ofDocument document
    return (key.plain, type) :: (← Ty.ofMembers rest)

/-- The types under `params`, none if there is no such key. -/
def Ty.paramsIn : List (Scalar × Document) → Except LoadError (List Ty)
  | [] => return []
  | (key, document) :: rest =>
    if key = .string "params" then Ty.listOf document else Ty.paramsIn rest

/-- The type under `returns`, `void` if there is no such key. -/
def Ty.resultIn : List (Scalar × Document) → Except LoadError Ty
  | [] => return .void
  | (key, document) :: rest =>
    if key = .string "returns" then Ty.ofDocument document else Ty.resultIn rest

/-- The types that a document lists. The characters of a text and the keys of a mapping count as its
items. -/
def Ty.listOf (document : Document) : Except LoadError (List Ty) :=
  match document with
  | .list items => Ty.ofAll items
  | .scalar (.string text) => text.toList.mapM fun c => Ty.ofName (String.singleton c)
  | .mapping entries => entries.mapM fun entry => Ty.ofKey entry.1
  | .scalar other => .error (.broken (.notIterable other.kindName))

def Ty.ofAll : List Document → Except LoadError (List Ty)
  | [] => return []
  | document :: rest => do
    let type ← Ty.ofDocument document
    return type :: (← Ty.ofAll rest)

end

end TreeScript
