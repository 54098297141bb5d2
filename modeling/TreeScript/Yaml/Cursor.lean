/-! # Positions in a text

A cursor is the rest of a text together with the line and column at which it starts. Lines end with
a line feed, a next-line character or one of the two Unicode separators.
-/

namespace TreeScript.Yaml

structure Cursor where
  rest : List Char
  line : Nat
  column : Nat
  /-- How many characters were passed. -/
  index : Nat

def isBreak (c : Char) : Bool := c == '\n' || c == '\x85' || c == '\u2028' || c == '\u2029'

/-- Whether a word ends before a character, or at the end of the text. -/
def endsWord : Option Char → Bool
  | none => true
  | some c => c == ' ' || c == '\t' || isBreak c

namespace Cursor

def start (text : List Char) : Cursor := ⟨text, 0, 0, 0⟩

def peek (cursor : Cursor) : Option Char := cursor.rest.head?

def peekAt (cursor : Cursor) (offset : Nat) : Option Char := cursor.rest[offset]?

/-- Pass characters of the current line. -/
def skip (cursor : Cursor) (count : Nat) : Cursor :=
  { cursor with
    rest := cursor.rest.drop count
    column := cursor.column + count
    index := cursor.index + count }

/-- The characters of the current line that have a property, and the cursor after them. -/
def span (cursor : Cursor) (holds : Char → Bool) : List Char × Cursor :=
  let taken := cursor.rest.takeWhile holds
  (taken, cursor.skip taken.length)

def skipBlanks (cursor : Cursor) : Cursor := (cursor.span (· == ' ')).2

/-- Pass a line break, which is read as a line feed unless it is a separator. -/
def lineBreak? (cursor : Cursor) : Option (Char × Cursor) :=
  match cursor.rest with
  | c :: rest =>
    if isBreak c then
      some (if c == '\x85' then '\n' else c, ⟨rest, cursor.line + 1, 0, cursor.index + 1⟩)
    else none
  | [] => none

/-- Whether a document starts or ends here: three dashes or dots on their own. -/
def atSeparator (cursor : Cursor) : Bool :=
  (cursor.rest.take 3 == ['-', '-', '-'] || cursor.rest.take 3 == ['.', '.', '.'])
    && endsWord (cursor.peekAt 3)

end Cursor

end TreeScript.Yaml
