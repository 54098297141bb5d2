import TreeScript.Yaml.Cursor
import TreeScript.Yaml.Problem

/-! # Quoted scalars

Between single quotes only the quote itself is escaped, by doubling it; between double quotes a
backslash escapes. A line break stands for a blank, and each further empty line for a line feed.
-/

namespace TreeScript.Yaml

-- Powers are those of the core library, whatever else is in scope.
attribute [local instance (high)] instPowNat

/-- The character that a one-letter escape stands for. -/
def escaped? (c : Char) : Option Char :=
  match c with
  | '0' => some (Char.ofNat 0)
  | 'a' => some '\x07'
  | 'b' => some '\x08'
  | 't' => some '\t'
  | '\t' => some '\t'
  | 'n' => some '\n'
  | 'v' => some '\x0b'
  | 'f' => some '\x0c'
  | 'r' => some '\r'
  | 'e' => some '\x1b'
  | ' ' => some ' '
  | '"' => some '"'
  | '\\' => some '\\'
  | '/' => some '/'
  | 'N' => some '\x85'
  | '_' => some '\xa0'
  | 'L' => some '\u2028'
  | 'P' => some '\u2029'
  | _ => none

/-- How many hexadecimal digits follow a numeric escape. -/
def escapeWidth? (c : Char) : Option Nat :=
  match c with
  | 'x' => some 2
  | 'u' => some 4
  | 'U' => some 8
  | _ => none

def hexDigit? (c : Char) : Option Nat :=
  if '0' ≤ c ∧ c ≤ '9' then some (c.toNat - '0'.toNat)
  else if 'a' ≤ c ∧ c ≤ 'f' then some (c.toNat - 'a'.toNat + 10)
  else if 'A' ≤ c ∧ c ≤ 'F' then some (c.toNat - 'A'.toNat + 10)
  else none

/-- The character with a code; halves of surrogate pairs become the replacement character. -/
def characterOf (code : Nat) : Except BadScalar Char :=
  if 0xd800 ≤ code ∧ code ≤ 0xdfff then .ok '\ufffd'
  else if code < 0x110000 then .ok (Char.ofNat code)
  else if code < 2 ^ (31 : Nat) then .error .noCharacter
  else .error .codeTooLarge

/-- The code that hexadecimal digits denote. -/
def hexadecimal? (digits : List Char) : Option Nat :=
  digits.foldlM (fun code digit => do return code * 16 + (← hexDigit? digit)) 0

/-- The line breaks after a first one, up to the next text; a document may not end in between. -/
def foldedBreaks : Nat → Cursor → Except Problem (List Char × Cursor)
  | 0, _ => .error .malformed
  | effort + 1, cursor =>
    if cursor.atSeparator then .error .malformed
    else
      let (_, cursor) := cursor.span fun c => c == ' ' || c == '\t'
      match cursor.lineBreak? with
      | some (c, cursor) => do
        let (more, cursor) ← foldedBreaks effort cursor
        return (c :: more, cursor)
      | none => .ok ([], cursor)

/-- What a line break and the further breaks after it stand for. -/
def folded (first : Char) (further : List Char) : List Char :=
  if first != '\n' then first :: further
  else if further.isEmpty then [' ']
  else further

/-- What an escape stands for, from the character after the backslash on. -/
def escape (effort : Nat) (cursor : Cursor) : Except Problem (List Char × Cursor) :=
  match cursor.peek with
  | none => .error .malformed
  | some e =>
    match escaped? e, escapeWidth? e with
    | some c, _ => .ok ([c], cursor.skip 1)
    | none, some width =>
      let digits := (cursor.skip 1).rest.take width
      match hexadecimal? digits with
      | some code => do
        if digits.length < width then throw .malformed
        let c ← (characterOf code).mapError .badScalar
        return ([c], cursor.skip (1 + width))
      | none => .error .malformed
    | none, none =>
      match cursor.lineBreak? with
      | some (_, cursor) => foldedBreaks effort cursor
      | none => .error .malformed

/-- The text up to the closing quote. -/
def quotedFrom (isDouble : Bool) : Nat → Cursor → Except Problem (List Char × Cursor)
  | 0, _ => .error .malformed
  | effort + 1, cursor =>
    let add (part : List Char) (cursor : Cursor) : Except Problem (List Char × Cursor) := do
      let (more, cursor) ← quotedFrom isDouble effort cursor
      return (part ++ more, cursor)
    match cursor.peek with
    | none => .error .malformed
    | some c =>
      if c == '\'' && !isDouble then
        if cursor.peekAt 1 == some '\'' then add ['\''] (cursor.skip 2)
        else .ok ([], cursor.skip 1)
      else if c == '"' && isDouble then .ok ([], cursor.skip 1)
      else if c == '\\' && isDouble then do
        let (part, cursor) ← escape effort (cursor.skip 1)
        add part cursor
      else if c == ' ' || c == '\t' || isBreak c then
        let (blanks, cursor) := cursor.span fun c => c == ' ' || c == '\t'
        match cursor.lineBreak? with
        | some (first, cursor) => do
          let (further, cursor) ← foldedBreaks effort cursor
          add (folded first further) cursor
        | none => add blanks cursor
      else add [c] (cursor.skip 1)

/-- A quoted scalar, from its opening quote on. -/
def quoted (cursor : Cursor) : Except Problem (List Char × Cursor) :=
  quotedFrom (cursor.peek == some '"') (cursor.rest.length + 1) (cursor.skip 1)

end TreeScript.Yaml
