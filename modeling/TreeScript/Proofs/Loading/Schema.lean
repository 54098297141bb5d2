import TreeScript.Program.Load

/-! # The fields of nodes

Every document in a program plays a role there, which tells how it is read. A kind of node lists its
fields with their roles, in the order in which they are read, and tells what node the fields make.
Reading a node by this table is reading it: what holds of every field in its role holds of every kind.
-/

namespace TreeScript

/-- What a document stands for at its place in a program. -/
inductive Role where
  | text
  | truth
  | names
  | literal
  | node
  | nodes
  /-- The name of a property, or a node that computes it. -/
  | key
  /-- The named members of an object literal. -/
  | members
  | switchCase
  | switchCases
  | type
  | types
  /-- The named properties of an object type. -/
  | properties
  /-- The parameters and the result of a function type. -/
  | signature
  | program
  deriving DecidableEq

namespace Role

/-- What is read from a document in a role. -/
abbrev Content : Role → Type
  | text => String
  | truth => Bool
  | names => List String
  | literal => Literal
  | node => Node
  | key => String ⊕ Node
  | nodes | program => List Node
  | members => Table Node
  | switchCase => Node × List Node
  | switchCases => List (Node × List Node)
  | type | properties | signature => Ty
  | types => List Ty

/-- The reading of a document in a role; `place` names the field in messages. -/
def read : (role : Role) → Reading → (place : String) → Load role.Content
  | text, reading, place => reading.text place
  | truth, reading, place => reading.bool place
  | names, reading, place => reading.names place
  | literal, reading, _ => reading.literal
  | node, reading, _ => reading.node
  | nodes, reading, place => reading.nodes place
  | key, reading, _ =>
    match reading.document with
    | .scalar (.string name) => return .inl name
    | _ => do
      return .inr (← reading.node)
  | members, reading, place => reading.members place
  | switchCase, reading, _ => reading.switchCase
  | switchCases, reading, _ => reading.switchCases
  | type, reading, place => reading.type place
  | types, reading, place => reading.types place
  | properties, reading, _ =>
    match reading.document with
    | .mapping entries => liftM (Ty.ofProperties <$> Ty.ofMembers entries)
    | other => Load.malformed (.notAType other)
  | signature, reading, _ =>
    match reading.document with
    | .mapping parts => liftM (do
      let params ← Ty.paramsIn parts
      return Ty.arrow params (← Ty.resultIn parts))
    | other => Load.malformed (.notAType other)
  | program, reading, _ => programOfDocument reading.document

end Role

/-- Whether a field must be there. -/
inductive Presence where
  | needed
  /-- The field may be missing, and counts as missing if it is null. -/
  | nullable
  /-- The field may be missing, but a null in it is read as any other document. -/
  | missable
  deriving DecidableEq

/-- A named field of a mapping. -/
structure Field where
  name : String
  role : Role
  presence : Presence

namespace Field

abbrev needed (name : String) (role : Role) : Field := ⟨name, role, .needed⟩

abbrev nullable (name : String) (role : Role) : Field := ⟨name, role, .nullable⟩

abbrev missable (name : String) (role : Role) : Field := ⟨name, role, .missable⟩

/-- What is read from a field. -/
abbrev Content : Field → Type
  | ⟨_, role, .needed⟩ => role.Content
  | ⟨_, role, .nullable⟩ | ⟨_, role, .missable⟩ => Option role.Content

/-- Read a field of a node of the given kind. -/
def read (fields : Fields) (kind : String) : (field : Field) → Load field.Content
  | ⟨name, role, .needed⟩ => fields.required kind name role.read
  | ⟨name, role, .nullable⟩ => fields.optional kind name role.read
  | ⟨name, role, .missable⟩ =>
    match fields.get? name with
    | some reading => some <$> role.read reading (kind ++ "." ++ name)
    | none => return none

/-- A way to make something of what was read from fields. -/
def Maker (α : Type) : List Field → Type
  | [] => Load α
  | field :: rest => field.Content → Maker α rest

/-- Read fields in their order, and make something of them. -/
def assemble {α : Type} (fields : Fields) (kind : String) : (rules : List Field) → Maker α rules → Load α
  | [], make => make
  | field :: rest, make => do
    let content ← field.read fields kind
    assemble fields kind rest (make content)

end Field

/-- The fields of a mapping, and what they make. -/
structure Rule (α : Type) where
  fields : List Field
  make : Field.Maker α fields

/-- A property is named, or computed by a node. -/
def Node.access (target : Node) : String ⊕ Node → Node
  | .inl name => .property target name
  | .inr key => .element target key

/-- The kinds of nodes. -/
def nodeRule? : String → Option (Rule Node)
  | "Literal" => some ⟨[.missable "value" .literal], fun value => return .literal (value.getD .undefined)⟩
  | "VariableReference" => some ⟨[.needed "name" .text], fun name => return .reference name⟩
  | "VariableDeclaration" => some
    ⟨[.needed "kind" .text, .needed "name" .text, .needed "initializer" .node],
      fun declared name initial => return .declare declared name initial⟩
  | "Assignment" => some ⟨[.needed "name" .text, .needed "expression" .node],
      fun name expression => return .assign name expression⟩
  | "Return" => some ⟨[.nullable "expression" .node], fun expression => return .giveBack expression⟩
  | "Break" => some ⟨[], (return .breakLoop : Load Node)⟩
  | "Continue" => some ⟨[], (return .continueLoop : Load Node)⟩
  | "Error" => some ⟨[.needed "message" .node], fun message => return .raise message⟩
  | "FunctionLiteral" => some
    ⟨[.nullable "name" .text, .needed "params" .names, .needed "body" .nodes,
        .nullable "param_types" .types, .nullable "return_type" .type, .nullable "pure" .truth],
      fun name params body declared result isPure => do
        match declared with
        | some types =>
          if List.length types ≠ List.length params then
            Load.malformed (.parameterCount (functionName name) (List.length params) (List.length types))
        | none => pure ()
        return .function name params body declared result (isPure.getD false)⟩
  | "ArrowFunction" => some ⟨[.needed "params" .names, .needed "body" .node],
      fun params body => return .arrow params body⟩
  | "FunctionCall" => some ⟨[.needed "name" .text, .nullable "args" .nodes],
      fun name args => return .call name (args.getD [])⟩
  | "BinaryOperation" => some
    ⟨[.needed "operator" .text, .needed "left" .node, .needed "right" .node],
      fun token left right => return .binary token left right⟩
  | "MethodCall" => some ⟨[.needed "target" .node, .needed "method" .text, .nullable "args" .nodes],
      fun target name args => return .method target name (args.getD [])⟩
  | "ArrayLiteral" => some ⟨[.nullable "elements" .nodes], fun elements => return .array (elements.getD [])⟩
  | "ObjectLiteral" => some ⟨[.nullable "properties" .members],
      fun properties => return .object (properties.getD [])⟩
  | "IndexAssignment" => some
    ⟨[.needed "target" .node, .needed "index" .node, .needed "value" .node],
      fun target index value => return .setIndex target index value⟩
  | "PropertyAccess" => some ⟨[.needed "object" .node, .needed "property" .key],
      fun target key => return .access target key⟩
  | "Block" => some ⟨[.nullable "statements" .nodes], fun statements => return .block (statements.getD [])⟩
  | "If" => some ⟨[.needed "condition" .node, .needed "then_branch" .nodes, .nullable "else_branch" .nodes],
      fun condition thenBranch elseBranch => return .branch condition thenBranch elseBranch⟩
  | "While" => some ⟨[.needed "condition" .node, .nullable "body" .nodes],
      fun condition body => return .whileLoop condition (body.getD [])⟩
  | "DoWhile" => some ⟨[.needed "body" .nodes, .needed "condition" .node],
      fun body condition => return .doWhile body condition⟩
  | "For" => some
    ⟨[.nullable "init" .node, .nullable "condition" .node, .nullable "update" .node, .nullable "body" .nodes],
      fun init condition update body => do
        requireParts init condition update
        return .forLoop init condition update (body.getD [])⟩
  | "ForEach" => some ⟨[.needed "item" .text, .needed "iterable" .node, .nullable "body" .nodes],
      fun item iterable body => return .forEach item iterable (body.getD [])⟩
  | "Switch" => some
    ⟨[.needed "expression" .node, .nullable "cases" .switchCases, .nullable "default" .nodes],
      fun expression cases otherwise => return .select expression (cases.getD []) otherwise⟩
  | "TryCatch" => some
    ⟨[.needed "try_block" .nodes, .needed "catch_var" .text, .nullable "catch_block" .nodes],
      fun tryBlock catchVar catchBlock => return .tryCatch tryBlock catchVar (catchBlock.getD [])⟩
  | _ => none

/-- A literal that is missing is undefined. -/
theorem nodeOfFields_literal (fields : Fields) :
    nodeOfFields "Literal" fields = (do
      fields.only "Literal" ["value"]
      Field.assemble fields "Literal" [.missable "value" .literal]
        fun value => return .literal (value.getD .undefined)) := by
  change (do
    fields.only "Literal" ["value"]
    match fields.get? "value" with
    | some reading => return Node.literal (← reading.literal)
    | none => return Node.literal .undefined) = _
  congr 1
  funext _
  simp only [Field.assemble, Field.read]
  cases fields.get? "value" with
  | some reading => simp only [Role.read, bind_map_left, Option.getD_some]
  | none => simp only [pure_bind, Option.getD_none]

theorem readKey_eq (target : Node) (reading : Reading) (place : String) :
    readKey target reading = (do
      return target.access (← Role.key.read reading place)) := by
  simp only [readKey, Role.read]
  cases reading.document with
  | scalar value =>
    cases value with
    | string name =>
      simp only [pure_bind]
      rfl
    | _ =>
      simp only [bind_assoc, pure_bind]
      rfl
  | list | mapping =>
    simp only [bind_assoc, pure_bind]
    rfl

theorem nodeOfFields_property (fields : Fields) :
    nodeOfFields "PropertyAccess" fields = (do
      fields.only "PropertyAccess" ["object", "property"]
      Field.assemble fields "PropertyAccess" [.needed "object" .node, .needed "property" .key]
        fun target key => return .access target key) := by
  change (do
    fields.only "PropertyAccess" ["object", "property"]
    let target ← fields.required "PropertyAccess" "object" fun reading _ => reading.node
    fields.required "PropertyAccess" "property" fun reading _ => readKey target reading) = _
  congr 1
  funext _
  congr 1
  funext target
  simp only [Field.assemble, Field.read, Fields.required]
  cases fields.get? "property" with
  | none => rfl
  | some reading => exact readKey_eq target reading _

/-- A node is read by the rule of its kind. -/
theorem nodeOfFields_eq (kind : String) (fields : Fields) :
    nodeOfFields kind fields =
      match nodeRule? kind with
      | some rule => do
        fields.only kind (rule.fields.map Field.name)
        Field.assemble fields kind rule.fields rule.make
      | none => Load.malformed (.unknownNode kind) := by
  -- The other kinds read their fields one after the other, as their rules do.
  unfold nodeOfFields
  split
  case h_1 => exact nodeOfFields_literal fields
  case h_17 => exact nodeOfFields_property fields
  case h_26 =>
    have unknown : nodeRule? kind = none := by
      unfold nodeRule?
      split
      case h_26 => rfl
      all_goals contradiction
    rw [unknown]
  all_goals rfl

end TreeScript
