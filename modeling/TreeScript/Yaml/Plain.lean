import TreeScript.Yaml.Quoted

/-! # Plain scalars

A plain scalar goes on until a colon or a number sign set off by blanks, across lines that are
indented enough. Inside brackets it also ends at the marks of lists and mappings.
-/

namespace TreeScript.Yaml

/-- The marks that end a plain scalar inside brackets. -/
def isFlowMark (c : Char) : Bool :=
  c == ',' || c == '?' || c == '[' || c == ']' || c == '\x7b' || c == '\x7d'

/-- Whether a colon before the given character ends a plain scalar. -/
def endsAtColon (inFlow : Bool) (next : Option Char) : Bool :=
  endsWord next || (inFlow && next.any fun c => isFlowMark c && c != '?')

/-- The part of a plain scalar up to the next blank. -/
def plainWord (inFlow : Bool) : List Char → List Char
  | [] => []
  | c :: rest =>
    if endsWord (some c) || (c == ':' && endsAtColon inFlow rest.head?) || (inFlow && isFlowMark c)
    then [] else c :: plainWord inFlow rest

/-- The line breaks after a first one, with blanks between them; none if a document ends. -/
def plainBreaks : Nat → Cursor → Option (List Char) × Cursor
  | 0, cursor => (none, cursor)
  | effort + 1, cursor =>
    if cursor.atSeparator && cursor.column == 0 then (none, cursor)
    else
      let cursor := cursor.skipBlanks
      match cursor.lineBreak? with
      | some (c, cursor) =>
        match plainBreaks effort cursor with
        | (some more, cursor) => (some (c :: more), cursor)
        | (none, cursor) => (none, cursor)
      | none => (some [], cursor)

/-- What stands between two parts of a plain scalar: nothing if it ends here. -/
structure Gap where
  text : List Char
  cursor : Cursor
  /-- Whether the gap goes over a line break. -/
  isBroken : Bool

def plainGap (cursor : Cursor) : Gap :=
  let (blanks, cursor) := cursor.span (· == ' ')
  match cursor.lineBreak? with
  | some (first, cursor) =>
    match plainBreaks (cursor.rest.length + 1) cursor with
    | (some further, cursor) => ⟨folded first further, cursor, true⟩
    | (none, cursor) => ⟨[], cursor, true⟩
  | none => ⟨blanks, cursor, false⟩

/-- The rest of a plain scalar after a gap, together with the gap that follows it. -/
def plainFrom (inFlow : Bool) (indent : Nat) : Nat → Gap → List Char × Gap
  | 0, gap => ([], gap)
  | effort + 1, gap =>
    let cursor := gap.cursor
    let word := plainWord inFlow cursor.rest
    if cursor.peek == some '#' || word.isEmpty then ([], gap)
    else
      let next := plainGap (cursor.skip word.length)
      if next.text.isEmpty || (!inFlow && next.cursor.column < indent) then (gap.text ++ word, next)
      else
        let (more, next) := plainFrom inFlow indent effort next
        (gap.text ++ word ++ more, next)

/-- A plain scalar whose further lines are indented to at least `indent`. -/
def plain (inFlow : Bool) (indent : Nat) (cursor : Cursor) : List Char × Gap :=
  plainFrom inFlow indent (cursor.rest.length + 1) ⟨[], cursor, false⟩

end TreeScript.Yaml
