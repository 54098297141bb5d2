import TreeScript.Eval.Access
import TreeScript.Eval.Call
import TreeScript.Eval.Loop
import TreeScript.Operator.Apply
import TreeScript.Ty.Declaration

/-! # Evaluation of nodes -/

namespace TreeScript

/-- The object that a handler receives for a failure. -/
def Failure.entries (cause : Failure) : Table Value :=
  [("name", .string cause.errorClass.name), ("code", .string cause.code),
   ("message", .string cause.message)]

/-- What a node supplied by the host does in a frame. -/
def HostAction.perform (name : String) (frame : FrameRef) : HostAction → Exec Value
  | constant value => Exec.done value
  | lookup bound => Exec.lookup frame bound
  | define bound value => do
    Exec.define frame bound value
    return value
  | crash message => Exec.fail (.host name message)
  | scriptError message => Exec.fail (.script message)
  | breakLoop => Exec.jump .broken
  | continueLoop => Exec.jump .continued
  | returnValue value => Exec.jump (.returned value)

namespace Evaluator

/-- Declare a name. Functions must be given by literals, other kinds by a value of the kind. -/
def declare (ev : Evaluator) (frame : FrameRef) (kind name : String) (initial : Node) :
    Exec Value := do
  match DeclarationKind.ofName? kind with
  | none => Exec.fail (.unsupportedKind kind name)
  | some .function =>
    match closureOf? frame initial with
    | none => Exec.fail (.mismatch (.notLiteral name initial.kindName))
    | some make => do
      let value ← make
      Exec.define frame name value
      return value
  | some known => do
    let value ← ev.exec initial frame
    if known.admits value then
      Exec.define frame name value
      return value
    else Exec.fail (.mismatch (.declared name kind value.describe))

/-- Assign to a name that is bound; the binding is made in the current frame. -/
def assign (ev : Evaluator) (frame : FrameRef) (name : String) (expression : Node) :
    Exec Value := do
  let _ ← Exec.lookup frame name
  let value ← ev.exec expression frame
  Exec.define frame name value
  return value

def callNamed (ev : Evaluator) (frame : FrameRef) (name : String) (args : List Node) :
    Exec Value := do
  match ← Exec.lookup frame name with
  | .function ref => do
    let values ← Exec.each (ev.argument frame) args
    Exec.hosted name (ev.call ref values)
  | _ => Exec.fail (.notCallable name)

/-- Apply an operator given by its spelling, once both operands are evaluated. -/
def operate (ev : Evaluator) (frame : FrameRef) (token : String) (left right : Node) :
    Exec Value := do
  let leftValue ← ev.exec left frame
  let rightValue ← ev.exec right frame
  match Operator.ofToken? token with
  | some operator => operator.apply leftValue rightValue
  | none => Exec.fail (.unknownOperator token)

def callMethod (ev : Evaluator) (frame : FrameRef) (target : Node) (name : String)
    (args : List Node) : Exec Value := do
  let receiver ← ev.exec target frame
  if receiver.isNullish then Exec.fail (.nullAccess (.method name))
  else do
    let values ← Exec.each (ev.argument frame) args
    Exec.hosted name (applyMethod ev.call receiver name values)

/-- Evaluate the entries of an object literal, in order. -/
def object (ev : Evaluator) (frame : FrameRef) (properties : List (String × Node)) :
    Exec Value := do
  let entries ← Exec.each (fun (name, node) => do
    return (name, ← ev.argument frame node)) properties
  Exec.newObject (Table.ofList entries)

/-- Read a property, whose key is evaluated only if the target can have properties. -/
def access (ev : Evaluator) (frame : FrameRef) (target : Node) (member : Member)
    (key : Exec Value) : Exec Value := do
  let receiver ← ev.exec target frame
  if receiver.isNullish then Exec.fail (.nullAccess member)
  else do
    let keyValue ← key
    readProperty receiver keyValue

/-- The body of the first case that equals a value. -/
def matchingCase (ev : Evaluator) (frame : FrameRef) (value : Value) :
    List (Node × List Node) → Exec (Option (List Node))
  | [] => Exec.done none
  | (candidate, body) :: rest => do
    let candidateValue ← ev.exec candidate frame
    if value.strictEquals candidateValue then return some body
    else ev.matchingCase frame value rest

def select (ev : Evaluator) (frame : FrameRef) (expression : Node)
    (cases : List (Node × List Node)) (otherwise : Option (List Node)) : Exec Value := do
  let value ← ev.exec expression frame
  match ← ev.matchingCase frame value cases, otherwise with
  | some body, _ => ev.runInside frame "case" body
  | none, some body => ev.runInside frame "default" body
  | none, none => return .undefined

def branch (ev : Evaluator) (frame : FrameRef) (condition : Node) (thenBranch : List Node)
    (elseBranch : Option (List Node)) : Exec Value := do
  match ← ev.condition condition frame, elseBranch with
  | true, _ => ev.runInside frame "if" thenBranch
  | false, some body => ev.runInside frame "if" body
  | false, none => return .undefined

/-- Handle a failure: bind its description in a new scope and run the handler there. -/
def handle (ev : Evaluator) (frame : FrameRef) (catchVar : String) (catchBlock : List Node)
    (cause : Failure) : Exec Value := do
  Exec.record (.caught cause)
  let scope ← Exec.child frame "catch"
  let description ← Exec.newObject cause.entries
  Exec.define scope catchVar description
  ev.run scope catchBlock

/-- Execute a node, given a way to execute its parts and to call functions. `effort` bounds the
rounds of its loops. -/
def execNode (ev : Evaluator) (effort : Nat) (node : Node) (frame : FrameRef) : Exec Value :=
  match node with
  | .literal value => return value.toValue
  | .reference name => Exec.lookup frame name
  | .declare kind name initial => ev.declare frame kind name initial
  | .assign name expression => ev.assign frame name expression
  | .giveBack none => Exec.jump (.returned .undefined)
  | .giveBack (some expression) => do
    let value ← ev.exec expression frame
    Exec.jump (.returned value)
  | .breakLoop => Exec.jump .broken
  | .continueLoop => Exec.jump .continued
  | .raise message => do
    let value ← ev.exec message frame
    let text ← Exec.textOf value
    Exec.fail (.script text)
  | .function name _ _ _ _ _ => Exec.fail (.functionExecuted (functionName name))
  | .arrow _ _ => Exec.fail .arrowExecuted
  | .call name args => ev.callNamed frame name args
  | .binary token left right => ev.operate frame token left right
  | .method target name args => ev.callMethod frame target name args
  | .array elements => do
    let values ← Exec.each (fun element => ev.exec element frame) elements
    Exec.newArray values.toArray
  | .object properties => ev.object frame properties
  | .setIndex target index value => do
    let targetValue ← ev.exec target frame
    let indexValue ← ev.exec index frame
    let newValue ← ev.exec value frame
    writeElement targetValue indexValue newValue
  | .property target name => ev.access frame target (.property name) (Exec.done (.string name))
  | .element target key => ev.access frame target .computed (ev.exec key frame)
  | .block statements => ev.runInside frame "block" statements
  | .branch condition thenBranch elseBranch => ev.branch frame condition thenBranch elseBranch
  | .select expression cases otherwise => ev.select frame expression cases otherwise
  | .whileLoop condition body => ev.whileLoop effort frame condition body
  | .doWhile body condition => ev.doWhile effort frame body condition
  | .forLoop init condition update body => ev.forLoop effort frame init condition update body
  | .forEach item iterable body => ev.forEach effort frame item iterable body
  | .tryCatch tryBlock catchVar catchBlock =>
    Exec.catching (ev.runInside frame "try" tryBlock) (ev.handle frame catchVar catchBlock)
  | .host name action _ => action.perform (name.getD "custom node") frame

end Evaluator

end TreeScript
