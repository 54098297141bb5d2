import TreeScript.Document.Basic
import TreeScript.Text.Casing
import TreeScript.Yaml.Resolve
import TreeScript.Yaml.Tree

/-! # What a tree stands for

Aliases are replaced by the nodes that they name, and scalars get their meaning. A part that stands
for nothing stays in its place: of several such parts the one that is met first counts, and parts
are met level by level, not in the order in which they were written.
-/

namespace TreeScript.Yaml

inductive Content where
  | scalar (value : Scalar)
  /-- A scalar that stands for nothing. -/
  | bad (problem : Problem)
  /-- A mark that has a meaning as a key only. -/
  | mark (text : String)
  | list (items : List Content)
  | mapping (entries : List (Content × Content))
  /-- A list or mapping that stands for nothing. -/
  | unfit

namespace Content

def ofMeaning : Except Problem Scalar → Content
  | .ok value => scalar value
  | .error problem => bad problem

/-- A scalar without a tag. -/
def ofPlain (text : String) : Content := if isMark text then mark text else ofMeaning (resolve text)

/-- The entries that a value under the mark for merging adds: those of a mapping, or of several
mappings of which the first counts most. -/
def merged? : Content → Option (List (Content × Content))
  | mapping entries => some entries
  | list items => do
    let parts ← items.mapM fun
      | mapping entries => some entries
      | _ => none
    return parts.reverse.flatten
  | _ => none

def isMerge : Content → Bool
  | mark text => text == "<<"
  | _ => false

/-- A key, where the mark for a default value is a text. -/
def asKey : Content → Content
  | mark text => scalar (.string text)
  | other => other

/-- A mapping: what is merged into it comes before its own entries. -/
def ofEntries (entries : List (Content × Content)) : Content :=
  let own := entries.filter fun (key, _) => !key.isMerge
  match (entries.filter fun (key, _) => key.isMerge).mapM fun (_, value) => merged? value with
  | some parts => mapping (parts.flatten ++ own.map fun (key, value) => (key.asKey, value))
  | none => unfit

/-! ## Tagged nodes -/

def standardTag (name : String) : String := "tag:yaml.org,2002:" ++ name

/-- An integer of a base, which may have a sign and the mark of its base. -/
def integerIn (base : Nat) (cs : List Char) : Except BadScalar Int :=
  let (negative, rest) := splitSign (Numeral.trimMargin cs)
  let isMarked := rest.head? == some '0' && rest[1]?.any fun c => Numeral.baseOf? c == some base
  let magnitude :=
    if isMarked then Numeral.based? base (rest.drop 2)
    else (Numeral.digits? base rest).map (Numeral.ofDigits base)
  match magnitude with
  | some n => .ok (Numeral.signed negative n)
  | none => .error (.notInteger base (String.ofList cs))

/-- The integer in a text that is tagged as one. -/
def taggedInteger (text : String) : Except BadScalar Int := do
  let (negative, cs) := splitSign (text.toList.filter (· != '_'))
  let magnitude ← match cs with
    | [] => .error .noDigits
    | ['0'] => .ok 0
    | '0' :: 'b' :: digits => integerIn 2 digits
    | '0' :: 'x' :: digits => integerIn 16 digits
    | '0' :: _ => integerIn 8 cs
    | _ => do
      let parts ← (atColons cs).mapM (integerIn 10)
      pure (parts.foldl (fun value part => value * 60 + part) 0)
  return if negative then -magnitude else magnitude

/-- The double in a text that is tagged as one. -/
def taggedDouble (text : String) : Except BadScalar Binary64 := do
  let cs := (lowerCase text).toList.filter (· != '_')
  if cs.isEmpty then throw .noDigits
  let (negative, cs) := splitSign cs
  let magnitude ←
    if cs == ".inf".toList then .ok (.infinite false)
    else if cs == ".nan".toList then .ok .nan
    else do
      let parts ← (atColons cs).mapM fun part =>
        match Numeral.double? part with
        | some d => .ok d
        | none => .error (.notDouble (String.ofList part))
      match parts with
      | [d] => pure d
      | parts => pure (sumOfSixties parts)
  return if negative then -magnitude else magnitude

/-- A scalar with the address of a tag. -/
def ofTagged (address text : String) : Content :=
  if address == "!" then ofPlain text
  else if address == standardTag "str" then scalar (.string text)
  else if address == standardTag "null" then scalar .null
  else if address == standardTag "bool" then
    if trueNames.contains (lowerCase text) then scalar (.bool true)
    else if falseNames.contains (lowerCase text) then scalar (.bool false)
    else bad (.badScalar (.notTruth (lowerCase text)))
  else if address == standardTag "int" then
    ofMeaning (((taggedInteger text).map Scalar.int).mapError .badScalar)
  else if address == standardTag "float" then
    ofMeaning (((taggedDouble text).map Scalar.float).mapError .badScalar)
  else if address == standardTag "timestamp" then
    match calendarTime? text.toList with
    | some time => ofMeaning (time.mapError fun cause => .badScalar (.calendar cause))
    | none => bad (.badScalar .notTime)
  else bad .malformed

/-- Give a node the type that the address of its tag names. -/
def retype (address : String) : Content → Content
  | list items =>
    if address == "!" || address == standardTag "seq" then list items else unfit
  | mapping entries =>
    if address == "!" || address == standardTag "map" then mapping entries else unfit
  | other => other

/-! ## From trees -/

/-- The nodes that were named so far; those that are not complete yet have no content. -/
abbrev Anchors := List (String × Option Content)

abbrev Naming := StateT Anchors (Except Problem)

def lookUp (name : String) : Naming Content := do
  match (← get).lookup name with
  | some (some content) => return content
  | _ => throw .malformed

/-- Name a node; a name can be given only once. -/
def naming (name : String) (node : Naming Content) : Naming Content := do
  if ((← get).lookup name).isSome then throw .malformed
  modify ((name, none) :: ·)
  let content ← node
  modify ((name, some content) :: ·)
  return content

/-- The address of a tag. -/
def addressOf (handles : List (String × String)) (tag : Tag) : Naming String :=
  match tag.handle with
  | none => return tag.suffix
  | some handle =>
    match handles.lookup handle with
    | some start => return start ++ tag.suffix
    | none => throw .malformed

mutual

def ofTree (handles : List (String × String)) : Tree → Naming Content
  | .scalar text isPlain => return if isPlain then ofPlain text else scalar (.string text)
  | .list items => do
    return list (← ofItems handles items)
  | .mapping entries => do
    return ofEntries (← ofPairs handles entries)
  | .alias name => lookUp name
  | .anchored name tree => naming name (ofTree handles tree)
  | .tagged tag (.scalar text _) => do
    return ofTagged (← addressOf handles tag) text
  | .tagged tag tree => do
    let address ← addressOf handles tag
    return retype address (← ofTree handles tree)

def ofItems (handles : List (String × String)) : List Tree → Naming (List Content)
  | [] => return []
  | item :: rest => do
    let content ← ofTree handles item
    return content :: (← ofItems handles rest)

def ofPairs (handles : List (String × String)) :
    List (Tree × Tree) → Naming (List (Content × Content))
  | [] => return []
  | (key, value) :: rest => do
    let key ← ofTree handles key
    let value ← ofTree handles value
    return (key, value) :: (← ofPairs handles rest)

end

/-! ## To documents -/

/-- What is wrong with a scalar. -/
def scalarProblem? : Content → Option Problem
  | bad problem => some problem
  | mark _ => some .malformed
  | _ => none

/-- What is wrong with a key, which must be a scalar. -/
def keyProblem? : Content → Option Problem
  | list _ | mapping _ | unfit => some .malformed
  | other => other.scalarProblem?

/-- What is wrong with a node itself and the scalars right in it. -/
def ownProblem? : Content → Option Problem
  | list items => items.findSome? scalarProblem?
  | mapping entries => entries.findSome? fun (key, value) =>
    match key.keyProblem? with
    | some problem => some problem
    | none => value.scalarProblem?
  | unfit => some .malformed
  | other => other.scalarProblem?

/-- The lists and mappings right in a node. -/
def inner : Content → List Content
  | list items => items.filter isCollection
  | mapping entries => (entries.map (·.2)).filter isCollection
  | _ => []
where
  isCollection : Content → Bool
    | list _ | mapping _ | unfit => true
    | _ => false

/-- What is wrong first at a number of levels below a node. -/
def problemBelow? : Nat → Content → Option Problem
  | 0, content => content.ownProblem?
  | depth + 1, content => content.inner.findSome? (problemBelow? depth)

mutual

/-- The document that a content stands for, and otherwise the number of levels above the deepest
part. -/
def document : Content → Except Nat Document
  | scalar value => .ok (.scalar value)
  | list items => (documents items).map Document.list |>.mapError (· + 1)
  | mapping entries => (pairs entries).map Document.ofEntries |>.mapError (· + 1)
  | bad _ | mark _ | unfit => .error 0

def documents : List Content → Except Nat (List Document)
  | [] => .ok []
  | item :: rest => do
    let first ← document item
    return first :: (← documents rest)

def pairs : List (Content × Content) → Except Nat (List (Scalar × Document))
  | [] => .ok []
  | (scalar key, value) :: rest => do
    let first ← document value
    return (key, first) :: (← pairs rest)
  | _ :: _ => .error 0

end

/-- The document that a content stands for, or what is met first that stands for nothing. -/
def toDocument (content : Content) : Except Problem Document :=
  match content.document with
  | .ok document => .ok document
  | .error depth =>
    let found := (List.range (depth + 1)).findSome? fun depth => content.problemBelow? depth
    .error (found.getD .malformed)

end Content

end TreeScript.Yaml
