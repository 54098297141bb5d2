import TreeScript.Node
import TreeScript.Numeric.Numeral
import TreeScript.Program.TypeSpec
import TreeScript.Table

/-! # Loading programs

A node is a mapping that names its kind under `node` and gives its fields. Unknown fields are
refused first; then the fields are read in their fixed order, and the first one that is missing or
malformed decides the error. An optional field that is null counts as absent.

How a document is read depends on the field it stands in. So each document is given all its readings
at once, and a mapping is read through the readings of its entries.

The host's limit on the digits of an integer is left aside here: big integers are read at any length.
-/

namespace TreeScript

/-- Loading numbers the symbols it makes, from the given number on. -/
abbrev Load := StateT Nat (Except LoadError)

namespace Load

def malformed {α : Type} (cause : Malformed) : Load α := throw (.malformed cause)

def broken {α : Type} (cause : Breakdown) : Load α := throw (.broken cause)

def newSymbol (description : String) : Load Symbol := do
  let id ← getModify (· + 1)
  return ⟨id, description⟩

/-- The integer that a document stands for where a big integer is wanted. -/
def integer (document : Document) : Load Int :=
  match document with
  | .scalar (.string text) =>
    match Numeral.integer? text.toList with
    | some n => return n
    | none => malformed (.notAnInteger text)
  | .scalar (.bool value) => return if value then 1 else 0
  | .scalar (.int n) => return n
  | .scalar (.float d) =>
    match d.truncate? with
    | some n => return n
    | none => if d.isNaN then malformed .integerOfNaN else broken .integerOfInfinity
  | other => broken (.notANumeral other.kindName)

/-- The literal that a document stands for. -/
def literal (document : Document) : Load Literal :=
  match document with
  | .scalar .null => return .null
  | .scalar (.bool value) => return .bool value
  | .scalar (.int value) => return .number (.int value)
  | .scalar (.float value) => return .number (.float value)
  | .scalar (.string value) => return .string value
  | .mapping [(.string "bigint", value)] => do
    return .bigint (← integer value)
  | .mapping [(.string "symbol", value)] => do
    return .symbol (← newSymbol value.plain)
  | other => malformed (.notALiteral other)

end Load

/-- The ways in which a document can be read, apart from those that look at no part of it. -/
structure Reading where
  document : Document
  node : Load Node
  nodes : String → Load (List Node)
  members : String → Load (Table Node)
  switchCase : Load (Node × List Node)
  switchCases : Load (List (Node × List Node))

namespace Reading

def text (reading : Reading) (place : String) : Load String :=
  match reading.document with
  | .scalar (.string text) => return text
  | other => Load.malformed (.expected place "a string" other)

def bool (reading : Reading) (place : String) : Load Bool :=
  match reading.document with
  | .scalar (.bool value) => return value
  | other => Load.malformed (.expected place "a boolean" other)

def names (reading : Reading) (place : String) : Load (List String) :=
  match reading.document with
  | .list items => items.mapM fun
    | .scalar (.string name) => return name
    | other => Load.malformed (.expected place "a name" other)
  | other => Load.malformed (.expected place "a list of names" other)

def type (reading : Reading) (_place : String) : Load Ty := liftM (Ty.ofDocument reading.document)

def types (reading : Reading) (_place : String) : Load (List Ty) :=
  liftM (Ty.listOf reading.document)

def literal (reading : Reading) : Load Literal := Load.literal reading.document

end Reading

/-- The readings of the entries of a mapping. -/
abbrev Fields := List (Scalar × Reading)

namespace Fields

variable {α : Type}

def get? (fields : Fields) (name : String) : Option Reading :=
  (fields.find? (·.1 == .string name)).map (·.2)

/-- Refuse fields other than the given ones. -/
def only (fields : Fields) (node : String) (known : List String) : Load Unit :=
  let unknown := (fields.map (·.1)).filter fun key =>
    !("node" :: known).any fun name => key == .string name
  if unknown.isEmpty then return ()
  else match Scalar.namesInOrder unknown with
    | .ok names => Load.malformed (.unknownFields node names)
    | .error cause => Load.broken cause

def required (fields : Fields) (node field : String) (read : Reading → String → Load α) : Load α :=
  match fields.get? field with
  | some reading => read reading (node ++ "." ++ field)
  | none => Load.malformed (.missingField node field)

def optional (fields : Fields) (node field : String) (read : Reading → String → Load α) :
    Load (Option α) :=
  match fields.get? field with
  | some reading =>
    if reading.document.isNull then return none
    else do
      return some (← read reading (node ++ "." ++ field))
  | none => return none

end Fields

/-- The parts of a `for` loop must all be there. -/
def requireParts (init condition update : Option Node) : Load Unit :=
  let missing := [("init", init), ("condition", condition), ("update", update)].filterMap
    fun (name, part) => if part.isNone then some name else none
  match missing with
  | [] => return ()
  | first :: others => Load.broken (.missingParts first others)

/-- A property is named, or computed by a node. -/
def readKey (target : Node) (reading : Reading) : Load Node :=
  match reading.document with
  | .scalar (.string name) => return .property target name
  | _ => do
    return .element target (← reading.node)

/-- A node of the given kind from the readings of its fields. -/
def nodeOfFields (kind : String) (fields : Fields) : Load Node :=
  let only := fields.only kind
  let node (field : String) : Load Node := fields.required kind field fun reading _ => reading.node
  let node? (field : String) : Load (Option Node) :=
    fields.optional kind field fun reading _ => reading.node
  let nodes (field : String) : Load (List Node) := fields.required kind field Reading.nodes
  let nodes? (field : String) : Load (Option (List Node)) :=
    fields.optional kind field Reading.nodes
  let text (field : String) : Load String := fields.required kind field Reading.text
  match kind with
  | "Literal" => do
    only ["value"]
    match fields.get? "value" with
    | some reading => return .literal (← reading.literal)
    | none => return .literal .undefined
  | "VariableReference" => do
    only ["name"]
    return .reference (← text "name")
  | "VariableDeclaration" => do
    only ["kind", "name", "initializer"]
    let declared ← text "kind"
    let name ← text "name"
    return .declare declared name (← node "initializer")
  | "Assignment" => do
    only ["name", "expression"]
    let name ← text "name"
    return .assign name (← node "expression")
  | "Return" => do
    only ["expression"]
    return .giveBack (← node? "expression")
  | "Break" => do
    only []
    return .breakLoop
  | "Continue" => do
    only []
    return .continueLoop
  | "Error" => do
    only ["message"]
    return .raise (← node "message")
  | "FunctionLiteral" => do
    only ["name", "params", "body", "param_types", "return_type", "pure"]
    let name ← fields.optional kind "name" Reading.text
    let params ← fields.required kind "params" Reading.names
    let body ← nodes "body"
    let declared ← fields.optional kind "param_types" Reading.types
    let result ← fields.optional kind "return_type" Reading.type
    let isPure ← fields.optional kind "pure" Reading.bool
    match declared with
    | some types =>
      if types.length ≠ params.length then
        Load.malformed (.parameterCount (functionName name) params.length types.length)
    | none => pure ()
    return .function name params body declared result (isPure.getD false)
  | "ArrowFunction" => do
    only ["params", "body"]
    let params ← fields.required kind "params" Reading.names
    return .arrow params (← node "body")
  | "FunctionCall" => do
    only ["name", "args"]
    let name ← text "name"
    return .call name ((← nodes? "args").getD [])
  | "BinaryOperation" => do
    only ["operator", "left", "right"]
    let token ← text "operator"
    let left ← node "left"
    return .binary token left (← node "right")
  | "MethodCall" => do
    only ["target", "method", "args"]
    let target ← node "target"
    let name ← text "method"
    return .method target name ((← nodes? "args").getD [])
  | "ArrayLiteral" => do
    only ["elements"]
    return .array ((← nodes? "elements").getD [])
  | "ObjectLiteral" => do
    only ["properties"]
    return .object ((← fields.optional kind "properties" Reading.members).getD [])
  | "IndexAssignment" => do
    only ["target", "index", "value"]
    let target ← node "target"
    let index ← node "index"
    return .setIndex target index (← node "value")
  | "PropertyAccess" => do
    only ["object", "property"]
    let target ← node "object"
    fields.required kind "property" fun reading _ => readKey target reading
  | "Block" => do
    only ["statements"]
    return .block ((← nodes? "statements").getD [])
  | "If" => do
    only ["condition", "then_branch", "else_branch"]
    let condition ← node "condition"
    let thenBranch ← nodes "then_branch"
    return .branch condition thenBranch (← nodes? "else_branch")
  | "While" => do
    only ["condition", "body"]
    let condition ← node "condition"
    return .whileLoop condition ((← nodes? "body").getD [])
  | "DoWhile" => do
    only ["body", "condition"]
    let body ← nodes "body"
    return .doWhile body (← node "condition")
  | "For" => do
    only ["init", "condition", "update", "body"]
    let init ← node? "init"
    let condition ← node? "condition"
    let update ← node? "update"
    let body ← nodes? "body"
    requireParts init condition update
    return .forLoop init condition update (body.getD [])
  | "ForEach" => do
    only ["item", "iterable", "body"]
    let item ← text "item"
    let iterable ← node "iterable"
    return .forEach item iterable ((← nodes? "body").getD [])
  | "Switch" => do
    only ["expression", "cases", "default"]
    let expression ← node "expression"
    let cases ← fields.optional kind "cases" fun reading _ => reading.switchCases
    return .select expression (cases.getD []) (← nodes? "default")
  | "TryCatch" => do
    only ["try_block", "catch_var", "catch_block"]
    let tryBlock ← nodes "try_block"
    let catchVar ← text "catch_var"
    return .tryCatch tryBlock catchVar ((← nodes? "catch_block").getD [])
  | other => Load.malformed (.unknownNode other)

/-- The kind that a name stands for; an operator is a binary operation. -/
def nodeKind (name : String) : String := if name = "Operator" then "BinaryOperation" else name

/-- A node from the readings of the entries of a mapping. -/
def nodeOfMapping (document : Document) (fields : Fields) : Load Node :=
  match fields.get? "node" with
  | none => Load.malformed (.notANode document)
  | some kind =>
    match kind.document with
    | .scalar (.string name) => nodeOfFields (nodeKind name) fields
    | .scalar other => Load.malformed (.unknownNode other.plain)
    | other => Load.broken (.unhashable other.kindName)

/-- A case of a switch; a missing body is empty. -/
def caseOfMapping (fields : Fields) : Load (Node × List Node) :=
  match fields.get? "match" with
  | none => Load.malformed .notACase
  | some candidate => do
    let node ← candidate.node
    match fields.get? "body" with
    | some body => return (node, ← body.nodes "case body")
    | none => return (node, [])

/-- The members of a mapping of nodes. -/
def membersOfMapping (fields : Fields) : Load (Table Node) := do
  return Table.ofList (← fields.mapM fun (key, reading) => do
    return (key.plain, ← reading.node))

/-- The readings of a scalar: it is no node and lists no nodes. The characters of a text would count
as cases. -/
def Reading.ofScalar (value : Scalar) : Reading where
  document := .scalar value
  node := Load.malformed (.notANode (.scalar value))
  nodes place := Load.malformed (.notNodes place)
  members place := Load.malformed (.expected place "a mapping of nodes" (.scalar value))
  switchCase := Load.malformed .notACase
  switchCases := match value with
    | .string text => if text.isEmpty then return [] else Load.malformed .notACase
    | other => Load.broken (.notIterable other.kindName)

/-- The readings of a list, through those of its items. -/
def Reading.ofList (document : Document) (items : List Reading) : Reading where
  document := document
  node := Load.malformed (.notANode document)
  nodes _ := items.mapM Reading.node
  members place := Load.malformed (.expected place "a mapping of nodes" document)
  switchCase := Load.malformed .notACase
  switchCases := items.mapM Reading.switchCase

/-- The readings of a mapping, through those of its values. Its keys would count as cases. -/
def Reading.ofMapping (document : Document) (fields : Fields) : Reading where
  document := document
  node := nodeOfMapping document fields
  nodes place := Load.malformed (.notNodes place)
  members _ := membersOfMapping fields
  switchCase := caseOfMapping fields
  switchCases := if fields.isEmpty then return [] else Load.malformed .notACase

mutual

/-- All readings of a document. -/
def Document.reading : Document → Reading
  | .scalar value => .ofScalar value
  | .list items => .ofList (.list items) (readingsOfAll items)
  | .mapping entries => .ofMapping (.mapping entries) (readingsOfEntries entries)

def readingsOfAll : List Document → List Reading
  | [] => []
  | document :: rest => document.reading :: readingsOfAll rest

def readingsOfEntries : List (Scalar × Document) → Fields
  | [] => []
  | (key, document) :: rest => (key, document.reading) :: readingsOfEntries rest

end

/-- The node that a document describes. -/
def Node.ofDocument (document : Document) : Load Node := document.reading.node

/-- The nodes of a list that stands for a program. -/
def nodesOfProgram (document : Document) : Load (List Node) :=
  match document with
  | .list items => items.mapM Node.ofDocument
  | _ => Load.malformed .notAProgram

/-- The program that a document describes: a list of nodes, or a mapping with one under `program`.
-/
def programOfDocument (document : Document) : Load (List Node) :=
  match document with
  | .mapping entries =>
    match Document.find? entries "program" with
    | some program => nodesOfProgram program
    | none => Load.malformed .noProgramKey
  | other => nodesOfProgram other

end TreeScript
