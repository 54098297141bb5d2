import TreeScript.Ty.Basic
import TreeScript.Value.Basic

/-! # Program trees

A program is a list of nodes. Nodes are both expressions and statements: every node can be executed
for a value and inferred for a type.
-/

namespace TreeScript

/-- The scalars that a literal can hold. -/
inductive Literal where
  | undefined
  | null
  | bool (value : Bool)
  | number (value : Number)
  | string (value : String)
  | bigint (value : Int)
  | symbol (value : Symbol)
  deriving DecidableEq

def Literal.toValue : Literal → Value
  | undefined => .undefined
  | null => .null
  | bool value => .bool value
  | number value => .number value
  | string value => .string value
  | bigint value => .bigint value
  | symbol value => .symbol value

/-- What a node supplied by the host does when it is executed. -/
inductive HostAction where
  | constant (value : Value)
  | lookup (name : String)
  | define (name : String) (value : Value)
  /-- Fail outside the language. -/
  | crash (message : String)
  | scriptError (message : String)
  | breakLoop
  | continueLoop
  | returnValue (value : Value)

/-- The type of a node supplied by the host: a fixed one, or that of a name in scope. -/
inductive HostType where
  | fixed (type : Ty)
  | ofName (name : String)

inductive Node where
  | literal (value : Literal)
  | reference (name : String)
  /-- Bind a name in the current frame to a value of the declared kind. -/
  | declare (kind name : String) (initial : Node)
  /-- Bind a name in the current frame, provided that it is already bound in some frame. -/
  | assign (name : String) (expression : Node)
  | giveBack (expression : Option Node)
  | breakLoop
  | continueLoop
  | raise (message : Node)
  | function (name : Option String) (params : List String) (body : List Node)
      (paramTypes : Option (List Ty)) (returnType : Option Ty) (isPure : Bool)
  | arrow (params : List String) (body : Node)
  | call (name : String) (args : List Node)
  | binary (token : String) (left right : Node)
  | method (target : Node) (name : String) (args : List Node)
  | array (elements : List Node)
  | object (properties : List (String × Node))
  | setIndex (target index value : Node)
  | property (target : Node) (name : String)
  /-- Read a property whose key is computed. -/
  | element (target key : Node)
  | block (statements : List Node)
  | branch (condition : Node) (thenBranch : List Node) (elseBranch : Option (List Node))
  | select (expression : Node) (cases : List (Node × List Node)) (otherwise : Option (List Node))
  | whileLoop (condition : Node) (body : List Node)
  | doWhile (body : List Node) (condition : Node)
  | forLoop (init condition update : Option Node) (body : List Node)
  | forEach (item : String) (iterable : Node) (body : List Node)
  | tryCatch (tryBlock : List Node) (catchVar : String) (catchBlock : List Node)
  /-- A node supplied by the host; the name is that of the host's callback. -/
  | host (name : Option String) (action : HostAction) (type : HostType)

namespace Node

instance : Inhabited Node := ⟨literal .undefined⟩

/-- The name of a node's kind as diagnostics show it. -/
def kindName : Node → String
  | literal _ => "Literal"
  | reference _ => "VariableReference"
  | declare _ _ _ => "VariableDeclaration"
  | assign _ _ => "Assignment"
  | giveBack _ => "Return"
  | breakLoop => "Break"
  | continueLoop => "Continue"
  | raise _ => "Error"
  | function _ _ _ _ _ _ => "FunctionLiteral"
  | arrow _ _ => "ArrowFunction"
  | call _ _ => "FunctionCall"
  | binary _ _ _ => "BinaryOperation"
  | method _ _ _ => "MethodCall"
  | array _ => "ArrayLiteral"
  | object _ => "ObjectLiteral"
  | setIndex _ _ _ => "IndexAssignment"
  | property _ _ | element _ _ => "PropertyAccess"
  | block _ => "Block"
  | branch _ _ _ => "If"
  | select _ _ _ => "Switch"
  | whileLoop _ _ => "While"
  | doWhile _ _ => "DoWhile"
  | forLoop _ _ _ _ => "For"
  | forEach _ _ _ => "ForEach"
  | tryCatch _ _ _ => "TryCatch"
  | host _ _ _ => "CustomNode"

end Node

/-- The name that a function literal goes by; the empty name is no name. -/
def functionName (name : Option String) : String :=
  match name with
  | some name => if name.isEmpty then "anonymous" else name
  | none => "anonymous"

end TreeScript
