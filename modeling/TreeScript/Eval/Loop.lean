import TreeScript.Eval.Basic

/-! # Loops

A loop has one scope for its condition and its update. The bodies of `while` and `do` loops run in
that scope; the bodies of the other loops get a new scope in every round, which functions made in
the body keep. A round that is cut short leaves the value of the loop as it was.
-/

namespace TreeScript

open Exec (Round)

/-- Run the body of a loop: `continue` ends the round and `break` ends the loop, both with the value
so far. -/
def absorbJumps (last : Value) (body : Exec Value) : Exec (Round Value) := fun host store =>
  match body host store with
  | .done value store => .done (.again value) store
  | .stopped (.signal .continued) store => .done (.again last) store
  | .stopped (.signal .broken) store => .done (.finished last) store
  | .stopped reason store => .stopped reason store
  | .unfinished store => .unfinished store

namespace Evaluator

def whileRound (ev : Evaluator) (scope : FrameRef) (condition : Node) (body : List Node)
    (last : Value) : Exec (Round Value) := do
  if ← ev.condition condition scope then absorbJumps last (ev.run scope body)
  else return .finished last

def whileLoop (ev : Evaluator) (effort : Nat) (frame : FrameRef) (condition : Node)
    (body : List Node) : Exec Value := do
  let scope ← Exec.child frame "while"
  Exec.repeatRounds (ev.whileRound scope condition body) effort .undefined

def doWhileRound (ev : Evaluator) (scope : FrameRef) (body : List Node) (condition : Node)
    (last : Value) : Exec (Round Value) := do
  match ← absorbJumps last (ev.run scope body) with
  | .finished value => return .finished value
  | .again value =>
    if ← ev.condition condition scope then return .again value else return .finished value

def doWhile (ev : Evaluator) (effort : Nat) (frame : FrameRef) (body : List Node)
    (condition : Node) : Exec Value := do
  let scope ← Exec.child frame "do-while"
  Exec.repeatRounds (ev.doWhileRound scope body condition) effort .undefined

/-- Whether a `for` loop goes on; a missing condition always holds. -/
def proceeds (ev : Evaluator) (scope : FrameRef) : Option Node → Exec Bool
  | some condition => ev.condition condition scope
  | none => Exec.done true

/-- Execute a part of a `for` loop that may be missing, for its effect. -/
def perform (ev : Evaluator) (scope : FrameRef) : Option Node → Exec Unit
  | some node => do
    let _ ← ev.exec node scope
  | none => Exec.done ()

def forRound (ev : Evaluator) (scope : FrameRef) (condition update : Option Node)
    (body : List Node) (last : Value) : Exec (Round Value) := do
  if ← ev.proceeds scope condition then
    match ← absorbJumps last (ev.runInside scope "for body" body) with
    | .finished value => return .finished value
    | .again value => do
      ev.perform scope update
      return .again value
  else return .finished last

def forLoop (ev : Evaluator) (effort : Nat) (frame : FrameRef) (init condition update : Option Node)
    (body : List Node) : Exec Value := do
  let scope ← Exec.child frame "for"
  ev.perform scope init
  Exec.repeatRounds (ev.forRound scope condition update body) effort .undefined

/-- One round over an array, which may grow or shrink while the loop runs. -/
def forEachRound (ev : Evaluator) (frame : FrameRef) (item : String) (ref : ArrayRef)
    (body : List Node) (state : Nat × Value) : Exec (Round (Nat × Value)) := do
  let (index, last) := state
  let elements ← Exec.read (·.elements ref)
  match elements[index]? with
  | none => return .finished state
  | some element =>
    let round ← absorbJumps last do
      let scope ← Exec.child frame "for-each"
      Exec.define scope item element
      ev.run scope body
    match round with
    | .again value => return .again (index + 1, value)
    | .finished value => return .finished (index + 1, value)

def forEach (ev : Evaluator) (effort : Nat) (frame : FrameRef) (item : String) (iterable : Node)
    (body : List Node) : Exec Value := do
  match ← ev.exec iterable frame with
  | .array ref =>
    let (_, last) ← Exec.repeatRounds (ev.forEachRound frame item ref body) effort (0, .undefined)
    return last
  | other => Exec.fail (.notAnArray other)

end Evaluator

end TreeScript
