import TreeScript.Calendar
import TreeScript.Numeric.Number

/-! # Documents

A document is what a program or configuration file holds once its notation has been read: scalars,
lists and mappings. Mappings keep the order in which keys were first written; a key that is written
again keeps its place and takes the later value.
-/

namespace TreeScript

/-- A scalar of a document; also what a mapping is keyed by. -/
inductive Scalar where
  | null
  | bool (value : Bool)
  | int (value : Int)
  | float (value : Binary64)
  | string (value : String)
  | date (value : Date)
  | moment (value : Moment)
  deriving DecidableEq

namespace Scalar

instance : Inhabited Scalar := ⟨null⟩

/-- The number that a scalar counts as when it is compared; truth values count as one and zero. -/
def number? : Scalar → Option Number
  | bool value => some (.int (if value then 1 else 0))
  | int value => some (.int value)
  | float value => some (.float value)
  | _ => none

/-- Whether two scalars are the same key: numbers and truth values by their value as numbers,
moments by what they denote, anything else literally. -/
def sameKey (left right : Scalar) : Bool :=
  match left, right with
  | moment l, moment r => l.same r
  | _, _ =>
    match left.number?, right.number? with
    | some l, some r => l.compare? r == some .eq
    | none, none => left == right
    | _, _ => false

end Scalar

inductive Document where
  | scalar (value : Scalar)
  | list (items : List Document)
  | mapping (entries : List (Scalar × Document))

namespace Document

instance : Inhabited Document := ⟨scalar .null⟩

def null : Document := scalar .null

def string (text : String) : Document := scalar (.string text)

/-- Write a value under a key: an existing key keeps its place, a new one goes last. -/
def put (entries : List (Scalar × Document)) (key : Scalar) (value : Document) :
    List (Scalar × Document) :=
  match entries with
  | [] => [(key, value)]
  | (other, old) :: rest =>
    if other.sameKey key then (other, value) :: rest else (other, old) :: put rest key value

/-- A mapping from entries in the order in which they were written. -/
def ofEntries (entries : List (Scalar × Document)) : Document :=
  mapping (entries.foldl (fun known entry => put known entry.1 entry.2) [])

/-- The value under a text key. -/
def find? (entries : List (Scalar × Document)) (key : String) : Option Document :=
  (entries.find? (·.1 == .string key)).map (·.2)

/-- The value under a text key of a mapping; other documents have none. -/
def get? (document : Document) (key : String) : Option Document :=
  match document with
  | mapping entries => find? entries key
  | _ => none

def isNull : Document → Bool
  | scalar .null => true
  | _ => false

end Document

end TreeScript
