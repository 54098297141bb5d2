import TreeScript.Log.Field

/-! # Formats with dollar signs

A field is a dollar sign and a name, which may stand in braces. A doubled dollar sign stands for
one; on its own it stands for nothing.
-/

namespace TreeScript.Log.Dollar

inductive Part where
  | text (c : Char)
  | field (name : String)
  /-- A dollar sign that starts no field. -/
  | stray

def startsName (c : Char) : Bool := c.isAlpha || c == '_'

def isNameChar (c : Char) : Bool := c.isAlphanum || c == '_'

/-- What follows a dollar sign, and the rest. -/
def afterSign (cs : List Char) : Part × List Char :=
  match cs with
  | '$' :: rest => (.text '$', rest)
  | '\x7b' :: rest =>
    let name := rest.takeWhile isNameChar
    match name, rest.drop name.length with
    | first :: _, '\x7d' :: rest =>
      if startsName first then (.field (String.ofList name), rest) else (.stray, cs)
    | _, _ => (.stray, cs)
  | first :: _ =>
    if startsName first then
      let name := cs.takeWhile isNameChar
      (.field (String.ofList name), cs.drop name.length)
    else (.stray, cs)
  | [] => (.stray, [])

def parts : Nat → List Char → List Part
  | 0, _ | _, [] => []
  | effort + 1, '$' :: rest =>
    let (part, rest) := afterSign rest
    part :: parts effort rest
  | effort + 1, c :: rest => .text c :: parts effort rest

/-- A message in a format. -/
def render? (field? : String → Option Field) (format : String) : Option String := do
  let texts ← (parts (format.length + 1) format.toList).mapM fun
    | .text c => some (String.ofList [c])
    | .field name => (field? name).map Field.plain
    | .stray => none
  return String.join texts

/-- Whether a format can be used: it has a field and no stray dollar sign. -/
def isValid (format : String) : Bool :=
  let parts := parts (format.length + 1) format.toList
  let isField : Part → Bool
    | .field _ => true
    | _ => false
  let isStray : Part → Bool
    | .stray => true
    | _ => false
  parts.any isField && !parts.any isStray

end TreeScript.Log.Dollar
