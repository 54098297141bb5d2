import TreeScript.Failure

/-! # Diagnostics

A diagnostic is what a check reports: a code, a message, how grave it is, and where it arose. A
collector keeps diagnostics in order and tells when there are enough of them.
-/

namespace TreeScript

inductive Severity where
  | error
  | warning
  | info
  deriving DecidableEq, Repr

namespace Severity

def name : Severity → String
  | error => "error"
  | warning => "warning"
  | info => "info"

def ofName? : String → Option Severity
  | "error" => some error
  | "warning" => some warning
  | "info" => some info
  | _ => none

end Severity

structure Diagnostic where
  code : String
  message : String
  severity : Severity
  /-- The node that the diagnostic is about. -/
  place : Option String
  hints : List String

namespace Diagnostic

/-- The diagnostic of a failure, at the given place unless the failure names one. -/
def ofFailure (cause : Failure) (place : String) : Diagnostic :=
  ⟨cause.code, cause.message, .error, some (cause.place?.getD place), cause.hints⟩

/-- A diagnostic as a text of one or more lines. -/
def format (diagnostic : Diagnostic) : String :=
  let head := s!"{diagnostic.severity.name}[{diagnostic.code}]: {diagnostic.message}"
  let place := match diagnostic.place with
    | some place => if place.isEmpty then [] else ["    --> in " ++ place]
    | none => []
  let hints := diagnostic.hints.map ("    = hint: " ++ ·)
  "\n".intercalate (head :: (place ++ hints))

end Diagnostic

/-- Diagnostics in the order in which they were added. `limit` is the number of errors that is
enough; without a limit nothing is. -/
structure Collector where
  diagnostics : List Diagnostic
  limit : Option Int

namespace Collector

def empty (limit : Option Int) : Collector := ⟨[], limit⟩

def add (collector : Collector) (diagnostic : Diagnostic) : Collector :=
  { collector with diagnostics := collector.diagnostics ++ [diagnostic] }

def errorCount (collector : Collector) : Nat :=
  collector.diagnostics.countP (·.severity = .error)

def hasErrors (collector : Collector) : Bool := 0 < collector.errorCount

def shouldStop (collector : Collector) : Bool :=
  collector.limit.any fun limit => decide (limit ≤ (collector.errorCount : Int))

end Collector

end TreeScript
