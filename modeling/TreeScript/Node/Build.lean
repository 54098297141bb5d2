import TreeScript.Document.Basic
import TreeScript.Node
import TreeScript.Store.Picture

/-! # Nodes built by the host

A host may build literals from values and nodes of its own. Literals hold scalars only; a node of
the host needs a type, or a name whose type it has.
-/

namespace TreeScript

/-- Why a node cannot be built. -/
inductive BuildError where
  | notScalar (sort : String)
  | unknownPrimitive (name : String)
  | notAType

def BuildError.message : BuildError → String
  | notScalar sort =>
    s!"Literal holds scalars only, got {sort}; use ArrayLiteral or ObjectLiteral for collections"
  | unknownPrimitive name => s!"unknown primitive type: {name}"
  | notAType => "type_spec must be a Type, a type name, or a callable"

/-- The literal that holds a value. -/
def Literal.ofValue (store : Store) : Value → Except BuildError Literal
  | .undefined => .ok .undefined
  | .null => .ok .null
  | .bool value => .ok (.bool value)
  | .number value => .ok (.number value)
  | .bigint value => .ok (.bigint value)
  | .string value => .ok (.string value)
  | .symbol value => .ok (.symbol value)
  | .array _ => .error (.notScalar "list")
  | .object _ => .error (.notScalar "dict")
  | .function ref =>
    .error (.notScalar (((store.functions[ref]?).map Callable.sort).getD .function).name)

/-- What a host gives as the type of its node. -/
inductive TypeArgument where
  | type (given : Ty)
  | named (name : String)
  | ofName (name : String)
  | other

/-- The type of a host's node. -/
def TypeArgument.resolve : TypeArgument → Except BuildError HostType
  | .type given => .ok (.fixed given)
  | named name =>
    match Primitive.ofName? name with
    | some tag => .ok (.fixed (.prim tag))
    | none => .error (.unknownPrimitive name)
  | ofName name => .ok (.ofName name)
  | other => .error .notAType

end TreeScript
