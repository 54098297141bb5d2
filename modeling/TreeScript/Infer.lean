import TreeScript.Builtin.Signature
import TreeScript.Method.Basic
import TreeScript.Node
import TreeScript.Operator.Infer
import TreeScript.Table
import TreeScript.Ty.Declaration

/-! # Inference of types

A node has a type in a scope of types, which it may extend: declarations and named functions bind
their names in the innermost frame. A node that fails keeps the bindings it made before. Inference
follows the tree, so it always ends.
-/

namespace TreeScript

/-- One scope's types. -/
structure TypeFrame where
  label : String
  types : Table Ty

/-- The frames of types in sight, the innermost first. -/
abbrev TypeScope := List TypeFrame

namespace TypeScope

/-- The scope that programs are checked in: it holds the signatures of the built-ins. -/
def initial : TypeScope :=
  [⟨"global", Builtin.all.map fun function => (function.name, function.signature)⟩]

def lookup? (scope : TypeScope) (name : String) : Option Ty :=
  scope.findSome? (·.types.get? name)

/-- Bind a name in the innermost frame. -/
def define (scope : TypeScope) (name : String) (type : Ty) : TypeScope :=
  match scope with
  | [] => []
  | frame :: enclosing => { frame with types := frame.types.put name type } :: enclosing

end TypeScope

/-- A step of inference: it reads and extends the scope, also when it fails. -/
abbrev Inference := ExceptT Failure (StateM TypeScope)

namespace Inference

def fail {α : Type} (cause : Mismatch) : Inference α := throw (.mismatch cause)

def lookup (name : String) : Inference Ty := do
  match (← get).lookup? name with
  | some type => return type
  | none => throw (.unboundType name)

def define (name : String) (type : Ty) : Inference Unit := modify (·.define name type)

/-- Infer in a new frame with the given bindings, which is dropped afterwards. -/
def inside {α : Type} (label : String) (bindings : Table Ty) (step : Inference α) : Inference α :=
  fun scope => ((step (⟨label, bindings⟩ :: scope)).1, scope)

end Inference

/-- The type of the object that a handler receives. -/
def Failure.entriesType : Ty :=
  .ofProperties [("name", .string), ("code", .string), ("message", .string)]

/-- The declared types of parameters, `any` if none are declared. -/
def parameterTypes (params : List String) (declared : Option (List Ty)) : List Ty :=
  declared.getD (params.map fun _ => .any)

/-- The bindings in the body of a function: its parameters, and the function itself if its type is
fully declared. -/
def bodyBindings (name : Option String) (params : List String) (declared : Option (List Ty))
    (returnType : Option Ty) : Table Ty :=
  let types := parameterTypes params declared
  let bindings := Table.ofList (params.zip types)
  match name, declared, returnType with
  | some name, some _, some result =>
    if name.isEmpty then bindings else bindings.put name (.arrow types result)
  | _, _, _ => bindings

mutual

/-- The type of a node in the current scope. -/
def Node.infer : Node → Inference Ty
  | .literal value => return match value with
    | .undefined => .undefined
    | .null => .null
    | .bool _ => .boolean
    | .number _ => .number
    | .string _ => .string
    | .bigint _ => .bigint
    | .symbol _ => .symbol
  | .reference name => Inference.lookup name
  | .declare kind name initial => do
    match DeclarationKind.ofName? kind with
    | none => throw (.unsupportedKind kind name)
    | some known => do
      let actual ← initial.infer
      match known.expectedType? actual with
      | some expected =>
        if actual.same expected then
          Inference.define name actual
          return actual
        else Inference.fail (.declaration name expected.name actual)
      | none => Inference.fail (.declaration name kind actual)
  | .assign name expression => do
    let current ← Inference.lookup name
    let new ← expression.infer
    if current.same new then return current else Inference.fail (.assignment name current new)
  | .giveBack none => return .void
  | .giveBack (some expression) => expression.infer
  | .breakLoop | .continueLoop => return .void
  | .raise message => do
    let _ ← message.infer
    return .void
  | .function name params body declared returnType _ => do
    let types := parameterTypes params declared
    let bodyType ← Inference.inside ("function " ++ functionName name)
      (bodyBindings name params declared returnType) (inferLast .void body)
    let result ← match returnType with
      | some result =>
        if bodyType.same result then pure result
        else Inference.fail (.returned (functionName name) result bodyType)
      | none => pure bodyType
    let type := Ty.arrow types result
    match name with
    | some name => if name.isEmpty then pure () else Inference.define name type
    | none => pure ()
    return type
  | .arrow params body => do
    let result ← Inference.inside "arrow" (Table.ofList (params.map fun param => (param, .any)))
      body.infer
    return .arrow (params.map fun _ => .any) result
  | .call name args => do
    match ← Inference.lookup name with
    | .function params result builtin =>
      if (builtin.map Builtin.isVariadic).getD false then do
        let _ ← inferEach args
        return result
      else if params.length = args.length then do
        inferArguments name 0 params args
        return result
      else Inference.fail (.argumentCount name params.length args.length)
    | other => Inference.fail (.notFunction name other)
  | .binary token left right => do
    let leftType ← left.infer
    let rightType ← right.infer
    match Operator.ofToken? token with
    | some operator => ExceptT.mk (pure (operator.infer leftType rightType))
    | none => throw (.unknownOperator token)
  | .method target name _ => do
    let targetType ← target.infer
    return inferMethod targetType name
  | .array elements => do
    let types ← inferEach elements
    return .array (Ty.common types)
  | .object properties => do
    let types ← inferProperties properties
    return .ofProperties types
  | .setIndex target index value => do
    let targetType ← target.infer
    let indexType ← index.infer
    let valueType ← value.infer
    if !indexType.same .number then Inference.fail (.indexType indexType)
    else match targetType with
      | .array element =>
        if element.same valueType then return valueType
        else Inference.fail (.indexValue valueType element)
      | other => Inference.fail (.indexTarget other)
  | .property target name => do
    match ← target.infer with
    | .object properties => return (Ty.property? properties name).getD .any
    | _ => return .any
  | .element target _ => do
    let _ ← target.infer
    return .any
  | .block statements => Inference.inside "block" [] (inferLast .void statements)
  | .branch condition thenBranch elseBranch => do
    let conditionType ← condition.infer
    if !conditionType.same .boolean then Inference.fail (.condition conditionType)
    let _ ← Inference.inside "then" [] (inferLast .void thenBranch)
    inferOptional "else" elseBranch
    return .void
  | .select expression cases otherwise => do
    let type ← expression.infer
    inferCases type cases
    inferOptional "default" otherwise
    return .void
  | .whileLoop condition body => Inference.inside "while" [] do
    let conditionType ← condition.infer
    if !conditionType.same .boolean then Inference.fail (.condition conditionType)
    let _ ← inferLast .void body
    return .void
  | .doWhile body condition => Inference.inside "do-while" [] do
    let _ ← inferLast .void body
    let conditionType ← condition.infer
    if !conditionType.same .boolean then Inference.fail (.condition conditionType)
    return .void
  | .forLoop init condition update body => Inference.inside "for" [] do
    let _ ← inferMaybe init
    match ← inferMaybe condition with
    | some conditionType =>
      if !conditionType.same .boolean then Inference.fail (.condition conditionType)
    | none => pure ()
    let _ ← inferMaybe update
    let _ ← Inference.inside "for body" [] (inferLast .void body)
    return .void
  | .forEach item iterable body => do
    match ← iterable.infer with
    | .array element => do
      let _ ← Inference.inside "for-each" [(item, element)] (inferLast .void body)
      return .void
    | other => Inference.fail (.iterable other)
  | .tryCatch tryBlock catchVar catchBlock => do
    let _ ← Inference.inside "try" [] (inferLast .void tryBlock)
    let _ ← Inference.inside "catch" [(catchVar, Failure.entriesType)] (inferLast .void catchBlock)
    return .void
  | .host _ _ (.fixed type) => return type
  | .host _ _ (.ofName name) => Inference.lookup name

/-- The type of the last of some statements, `last` if there are none. -/
def inferLast (last : Ty) : List Node → Inference Ty
  | [] => return last
  | node :: rest => do
    let type ← node.infer
    inferLast type rest

def inferEach : List Node → Inference (List Ty)
  | [] => return []
  | node :: rest => do
    let type ← node.infer
    return type :: (← inferEach rest)

/-- The arguments of a call have the types of the parameters, one by one. -/
def inferArguments (name : String) (index : Nat) : List Ty → List Node → Inference Unit
  | param :: params, arg :: args => do
    let type ← arg.infer
    if type.same param then inferArguments name (index + 1) params args
    else Inference.fail (.argument index name param type)
  | _, _ => return ()

def inferProperties : List (String × Node) → Inference (List (String × Ty))
  | [] => return []
  | (name, node) :: rest => do
    let type ← node.infer
    return (name, type) :: (← inferProperties rest)

/-- Every case has the type of the expression that it is compared with. -/
def inferCases (type : Ty) : List (Node × List Node) → Inference Unit
  | [] => return ()
  | (candidate, body) :: rest => do
    let candidateType ← candidate.infer
    if !type.same candidateType then Inference.fail (.switchCase candidateType type)
    let _ ← Inference.inside "case" [] (inferLast .void body)
    inferCases type rest

/-- A part that may be missing. -/
def inferMaybe : Option Node → Inference (Option Ty)
  | none => return none
  | some node => do
    let type ← node.infer
    return some type

/-- Statements that may be missing, in a scope of their own. -/
def inferOptional (label : String) : Option (List Node) → Inference Unit
  | none => return ()
  | some statements => do
    let _ ← Inference.inside label [] (inferLast .void statements)

end

end TreeScript
