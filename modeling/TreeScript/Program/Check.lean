import TreeScript.Diagnostic
import TreeScript.Infer

/-! # Checking programs

A check infers the type of every node of a program in one scope, without running anything. A node
that fails contributes a diagnostic and no type; the check goes on with the next node until it has
reported enough errors.
-/

namespace TreeScript

structure CheckResult where
  diagnostics : List Diagnostic
  /-- The type of each node that was looked at; none for those that failed. -/
  nodeTypes : List (Option Ty)
  /-- The scope after the last node that was looked at. -/
  scope : TypeScope
  /-- Whether the check ended early. -/
  stopped : Bool

namespace CheckResult

def hasErrors (result : CheckResult) : Bool :=
  result.diagnostics.any (·.severity = .error)

/-- The top-level bindings, without the names that still have the signature of their built-in. -/
def bindings (result : CheckResult) : Table Ty :=
  let types := match result.scope.getLast? with
    | some frame => frame.types
    | none => []
  types.filter fun (name, type) =>
    match type with
    | .function _ _ (some function) => function.name != name
    | _ => true

end CheckResult

/-- Check nodes in a scope, where `index` is the number of the first one. -/
def checkFrom (index : Nat) (scope : TypeScope) (collector : Collector) : List Node → CheckResult
  | [] => ⟨collector.diagnostics, [], scope, false⟩
  | node :: rest =>
    match node.infer scope with
    | (.ok type, scope) =>
      let result := checkFrom (index + 1) scope collector rest
      { result with nodeTypes := some type :: result.nodeTypes }
    | (.error cause, scope) =>
      let place := (Place.topLevel index node.kindName).text
      let collector := collector.add (.ofFailure cause place)
      if collector.shouldStop then ⟨collector.diagnostics, [none], scope, true⟩
      else
        let result := checkFrom (index + 1) scope collector rest
        { result with nodeTypes := none :: result.nodeTypes }

/-- Check a program, up to a number of errors. -/
def check (nodes : List Node) (limit : Option Int) : CheckResult :=
  checkFrom 0 .initial (.empty limit) nodes

/-- The number of errors at which a check stops by default. -/
def defaultLimit : Int := 20

end TreeScript
