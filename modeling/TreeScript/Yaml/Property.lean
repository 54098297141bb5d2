import TreeScript.Charset.Utf8
import TreeScript.Resource.Bytes
import TreeScript.Yaml.Block
import TreeScript.Yaml.Quoted

/-! # Anchors, tags and directives

A node may have an anchor, by which an alias refers to it, and a tag, which names its type. Tags are
shortened by handles, which directives at the start of a document may introduce.
-/

namespace TreeScript.Yaml

def isNameChar (c : Char) : Bool :=
  c.isAlphanum || c == '-' || c == '_'

/-- The name of an anchor or alias, after its mark. -/
def anchorName? (cursor : Cursor) : Option (String × Cursor) :=
  let (name, cursor) := (cursor.skip 1).span isNameChar
  let ends := cursor.peek.all fun c => endsWord (some c) || "?:,]\x7d%@\x60".toList.contains c
  if name.isEmpty || !ends then none else some (String.ofList name, cursor)

/-- A tag as written: a handle, if it has one, and the rest. -/
structure Tag where
  handle : Option String
  suffix : String
  deriving DecidableEq

/-- Whether a tag, handle or directive ends here. -/
def endsProperty (cursor : Cursor) : Bool := cursor.peek.all fun c => c == ' ' || isBreak c

namespace Tag

def isAddressChar (c : Char) : Bool :=
  c.isAlphanum || "-;/?:@&=+$,_.!~*'()[]%".toList.contains c

/-- Percent signs are followed by two hexadecimal digits. -/
def escapesRight : List Char → Bool
  | [] => true
  | '%' :: rest =>
    match rest with
    | a :: b :: more => (hexDigit? a).isSome && (hexDigit? b).isSome && escapesRight more
    | _ => false
  | _ :: rest => escapesRight rest

/-- The address in a tag. -/
def address? (cursor : Cursor) : Option (String × Cursor) := do
  let (chars, cursor) := cursor.span isAddressChar
  if chars.isEmpty || !escapesRight chars then none
  let bytes := Bytes.unescape (chars.map Char.toNat)
  let text := Charset.utf8From none bytes
  if text.contains Charset.replacement then none
  return (String.ofList text, cursor)

/-- A handle: an exclamation mark, or a name between two. -/
def handle? (cursor : Cursor) : Option (String × Cursor) := do
  if cursor.peek != some '!' then none
  let (name, after) := (cursor.skip 1).span isNameChar
  if name.isEmpty && after.peek == some ' ' then return ("!", after)
  if after.peek != some '!' then none
  return (String.ofList ('!' :: (name ++ ['!'])), after.skip 1)

/-- A tag, from its exclamation mark on. -/
def read? (cursor : Cursor) : Option (Tag × Cursor) := do
  let next := cursor.peekAt 1
  let (tag, cursor) ←
    if next == some '<' then do
      let (suffix, cursor) ← address? (cursor.skip 2)
      if cursor.peek != some '>' then none
      some (Tag.mk none suffix, cursor.skip 1)
    else if endsWord next then some (Tag.mk none "!", cursor.skip 1)
    else do
      let word := (cursor.skip 1).rest.takeWhile fun c => c != ' ' && !isBreak c
      let (handle, cursor) ←
        if word.contains '!' then handle? cursor else some ("!", cursor.skip 1)
      let (suffix, cursor) ← address? cursor
      some (Tag.mk (some handle) suffix, cursor)
  if endsProperty cursor then some (tag, cursor) else none

end Tag

/-- A line that a document may start with. -/
inductive Directive where
  | version (major : Nat)
  | handle (handle address : String)
  | other
  deriving DecidableEq

namespace Directive

def number? (cursor : Cursor) : Option (Nat × Cursor) :=
  let (digits, cursor) := cursor.span Char.isDigit
  if digits.isEmpty then none
  else some (digits.foldl (fun n c => n * 10 + (c.toNat - '0'.toNat)) 0, cursor)

def version? (cursor : Cursor) : Option (Directive × Cursor) := do
  let (major, cursor) ← number? cursor.skipBlanks
  if cursor.peek != some '.' then none
  let (_, cursor) ← number? (cursor.skip 1)
  if endsProperty cursor then some (.version major, cursor) else none

def introduced? (cursor : Cursor) : Option (Directive × Cursor) := do
  let (name, cursor) ← Tag.handle? cursor.skipBlanks
  if cursor.peek != some ' ' then none
  let (address, cursor) ← Tag.address? cursor.skipBlanks
  if endsProperty cursor then some (.handle name address, cursor) else none

/-- A directive, after its percent sign, to the end of its line. -/
def read? (cursor : Cursor) : Option (Directive × Cursor) := do
  let (name, cursor) := cursor.span isNameChar
  if name.isEmpty || !endsProperty cursor then none
  let (directive, cursor) ←
    if name == "YAML".toList then version? cursor
    else if name == "TAG".toList then introduced? cursor
    else some (.other, (cursor.span fun c => !isBreak c).2)
  let cursor ← lineEnd? cursor
  return (directive, cursor)

end Directive

end TreeScript.Yaml
