import TreeScript.Document.Display
import TreeScript.Numeric.Numeral

/-! # How loading fails

A document that describes no program is *malformed*. Some documents break the reading of a part
before its form is looked at; these cases are kept apart, since only the former are reported as an
invalid program.
-/

namespace TreeScript

/-- What is wrong with the form of a document. -/
inductive Malformed where
  | unknownType (name : String)
  | notAType (document : Document)
  | notALiteral (document : Document)
  | notNodes (place : String)
  | notACase
  | expected (place what : String) (document : Document)
  | notANode (document : Document)
  | unknownNode (name : String)
  | unknownFields (node : String) (fields : List String)
  | missingField (node field : String)
  | noProgramKey
  | notAProgram
  | parameterCount (name : String) (params types : Nat)
  | notAnInteger (text : String)
  | integerOfNaN

namespace Malformed

def message : Malformed → String
  | unknownType name => s!"unknown type name: {name}"
  | notAType document => s!"malformed type: {document.display}"
  | notALiteral document =>
    s!"unsupported literal value {document.display}; "
      ++ "use ArrayLiteral or ObjectLiteral for collections"
  | notNodes place => s!"{place}: expected a list of nodes"
  | notACase => "switch case must be a mapping with 'match' and 'body'"
  | expected place what document => s!"{place}: expected {what}, got {document.display}"
  | notANode document => s!"expected a node mapping with a 'node' key, got {document.display}"
  | unknownNode name => s!"unknown node kind: {name}"
  | unknownFields node fields =>
    let listed := ", ".intercalate fields
    s!"{node}: unknown field(s) {listed}"
  | missingField node field => s!"{node}: missing field '{field}'"
  | noProgramKey => "program document must have a 'program' key"
  | notAProgram => "program must be a list of nodes"
  | parameterCount name params types =>
    s!"function {name}: {params} parameter(s) but {types} declared type(s)"
  | notAnInteger text => Numeral.refusal 10 text
  | integerOfNaN => "cannot convert float NaN to integer"

end Malformed

/-- What breaks the reading of a part. -/
inductive Breakdown where
  | notIterable (kind : String)
  | unhashable (kind : String)
  | notANumeral (kind : String)
  | unnamedField (kind : String)
  | unordered (left right : String)
  | unorderedMoments
  | dateWithMoment
  | missingParts (first : String) (others : List String)
  | integerOfInfinity

namespace Breakdown

/-- Words in a list, the last one after "and". -/
def enumerate (first : String) : List String → String
  | [] => first
  | [second] => first ++ " and " ++ second
  | others => ", ".intercalate (first :: others.dropLast) ++ ", and " ++ others.getLastD ""

def message : Breakdown → String
  | notIterable kind => s!"'{kind}' object is not iterable"
  | unhashable kind => s!"unhashable type: '{kind}'"
  | notANumeral kind =>
    s!"int() argument must be a string, a bytes-like object or a real number, not '{kind}'"
  | unnamedField kind => s!"sequence item 0: expected str instance, {kind} found"
  | unordered left right => s!"'<' not supported between instances of '{left}' and '{right}'"
  | unorderedMoments => "can't compare offset-naive and offset-aware datetimes"
  | dateWithMoment => "can't compare datetime.datetime to datetime.date"
  | missingParts first others =>
    let quoted := enumerate ("'" ++ first ++ "'") (others.map fun name => "'" ++ name ++ "'")
    let count := others.length + 1
    let noun := if others.isEmpty then "argument" else "arguments"
    s!"For.__init__() missing {count} required positional {noun}: {quoted}"
  | integerOfInfinity => "cannot convert float infinity to integer"

end Breakdown

inductive LoadError where
  | malformed (cause : Malformed)
  | broken (cause : Breakdown)

def LoadError.message : LoadError → String
  | malformed cause => cause.message
  | broken cause => cause.message

namespace Scalar

/-- Whether a scalar comes before another one; only scalars of like kinds have an order. -/
def before (left right : Scalar) : Except Breakdown Bool :=
  match left, right with
  | string l, string r => .ok (l < r)
  | date l, date r => .ok (l.dayNumber < r.dayNumber)
  | moment l, moment r =>
    if l.offset.isSome == r.offset.isSome then .ok (l.instant < r.instant)
    else .error .unorderedMoments
  | date _, moment _ | moment _, date _ => .error .dateWithMoment
  | _, _ =>
    match left.number?, right.number? with
    | some l, some r => .ok (l.compare? r == some .lt)
    | _, _ => .error (.unordered left.kindName right.kindName)

/-- Put a scalar in its place among scalars in decreasing order. -/
def insertDescending (scalar : Scalar) : List Scalar → Except Breakdown (List Scalar)
  | [] => .ok [scalar]
  | last :: rest => do
    if ← scalar.before last then return last :: (← insertDescending scalar rest)
    else return scalar :: last :: rest

/-- Scalars in increasing order. -/
def sort (scalars : List Scalar) : Except Breakdown (List Scalar) := do
  let descending ← scalars.foldlM (fun sorted scalar => scalar.insertDescending sorted) []
  return descending.reverse

/-- Scalars in increasing order, to be named in a message; only texts can be named. -/
def namesInOrder (scalars : List Scalar) : Except Breakdown (List String) := do
  let sorted ← sort scalars
  sorted.mapM fun
    | string text => .ok text
    | other => .error (.unnamedField other.kindName)

end Scalar

end TreeScript
