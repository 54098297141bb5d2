import TreeScript.Yaml.Cursor

/-! # Block scalars

A literal block keeps its lines; a folded block joins them. The indentation is that of the first
line unless the header gives it. The header also says what happens to the line breaks at the end.
-/

namespace TreeScript.Yaml

/-- What happens to line breaks at the end of a block. -/
inductive Chomping where
  | strip
  | clip
  | keep

structure BlockHeader where
  isFolded : Bool
  chomping : Chomping
  increment : Option Nat

/-- An indicator of the header that sets the chomping. -/
def chomping? (c : Option Char) : Option Chomping :=
  match c with
  | some '+' => some .keep
  | some '-' => some .strip
  | _ => none

/-- An indicator of the header that sets the indentation; zero sets none. -/
def increment? (c : Option Char) : Option Nat :=
  c.bind fun c => if '0' ≤ c ∧ c ≤ '9' then some (c.toNat - '0'.toNat) else none

/-- The indicators after the mark of a block, in either order. -/
def indicators (isFolded : Bool) (cursor : Cursor) : BlockHeader × Cursor :=
  match chomping? cursor.peek, increment? cursor.peek with
  | some chomping, _ =>
    match increment? (cursor.skip 1).peek with
    | some n => (⟨isFolded, chomping, some n⟩, cursor.skip 2)
    | none => (⟨isFolded, chomping, none⟩, cursor.skip 1)
  | none, some n =>
    match chomping? (cursor.skip 1).peek with
    | some chomping => (⟨isFolded, chomping, some n⟩, cursor.skip 2)
    | none => (⟨isFolded, .clip, some n⟩, cursor.skip 1)
  | none, none => (⟨isFolded, .clip, none⟩, cursor)

/-- The rest of a line of which the content is over: blanks, a comment and a line break. -/
def lineEnd? (cursor : Cursor) : Option Cursor :=
  let cursor := cursor.skipBlanks
  let cursor := if cursor.peek == some '#' then (cursor.span fun c => !isBreak c).2 else cursor
  match cursor.lineBreak?, cursor.peek with
  | some (_, cursor), _ => some cursor
  | none, none => some cursor
  | none, some _ => none

/-- The rest of the line of a header, where a comment must be set off by blanks. -/
def headerEnd? (cursor : Cursor) : Option Cursor :=
  if cursor.peek == some '#' then none else lineEnd? cursor

/-- The empty lines before the first line with text, and the deepest indentation among them. -/
def leadingBreaks : Nat → Nat → Cursor → List Char × Nat × Cursor
  | 0, deepest, cursor => ([], deepest, cursor)
  | effort + 1, deepest, cursor =>
    let cursor := cursor.skipBlanks
    let deepest := max deepest cursor.column
    match cursor.lineBreak? with
    | some (c, cursor) =>
      let (more, deepest, cursor) := leadingBreaks effort deepest cursor
      (c :: more, deepest, cursor)
    | none => ([], deepest, cursor)

/-- Pass blanks up to a column. -/
def skipIndent (indent : Nat) (cursor : Cursor) : Cursor :=
  let blanks := (cursor.rest.takeWhile (· == ' ')).length
  cursor.skip (min blanks (indent - cursor.column))

/-- The empty lines before a line that is indented to a column. -/
def innerBreaks (indent : Nat) : Nat → Cursor → List Char × Cursor
  | 0, cursor => ([], cursor)
  | effort + 1, cursor =>
    let cursor := skipIndent indent cursor
    match cursor.lineBreak? with
    | some (c, cursor) =>
      let (more, cursor) := innerBreaks indent effort cursor
      (c :: more, cursor)
    | none => ([], cursor)

/-- The lines of a block from a cursor on, `breaks` being the empty lines before it. Gives the text,
the last line break and the empty lines at the end. -/
def blockLines (isFolded : Bool) (indent : Nat) :
    Nat → List Char → Cursor → List Char × List Char × List Char × Cursor
  | 0, breaks, cursor => ([], [], breaks, cursor)
  | effort + 1, breaks, cursor =>
    if cursor.column == indent && cursor.peek.isSome then
      let isText (c : Option Char) : Bool := c != some ' ' && c != some '\t'
      let startsWithText := isText cursor.peek
      let (line, cursor) := cursor.span fun c => !isBreak c
      let (lineEnd, cursor) := match cursor.lineBreak? with
        | some (c, cursor) => ([c], cursor)
        | none => ([], cursor)
      let (further, cursor) := innerBreaks indent (cursor.rest.length + 1) cursor
      if cursor.column == indent && cursor.peek.isSome then
        let joint :=
          if isFolded && lineEnd == ['\n'] && startsWithText && isText cursor.peek then
            if further.isEmpty then [' '] else []
          else lineEnd
        let (text, last, tail, cursor) := blockLines isFolded indent effort further cursor
        (breaks ++ line ++ joint ++ text, last, tail, cursor)
      else (breaks ++ line, lineEnd, further, cursor)
    else ([], [], breaks, cursor)

/-- A block scalar, from its mark on, inside a block at column `outer` (none at the top). -/
def block? (outer : Option Nat) (cursor : Cursor) : Option (List Char × Cursor) := do
  let (header, cursor) := indicators (cursor.peek == some '>') (cursor.skip 1)
  if header.increment = some 0 then none
  let cursor ← headerEnd? cursor
  let least := match outer with
    | some column => column + 1
    | none => 1
  let effort := cursor.rest.length + 1
  let (breaks, indent, cursor) := match header.increment with
    | some n =>
      let indent := (match outer with
        | some column => column + 1
        | none => 1) + n - 1
      let (breaks, cursor) := innerBreaks indent effort cursor
      (breaks, indent, cursor)
    | none =>
      let (breaks, deepest, cursor) := leadingBreaks effort 0 cursor
      (breaks, max least deepest, cursor)
  let (text, last, tail, cursor) := blockLines header.isFolded indent effort breaks cursor
  let ending := match header.chomping with
    | .strip => []
    | .clip => last
    | .keep => last ++ tail
  return (text ++ ending, cursor)

end TreeScript.Yaml
