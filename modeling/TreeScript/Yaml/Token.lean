import TreeScript.Yaml.Block
import TreeScript.Yaml.Plain
import TreeScript.Yaml.Property

/-! # Tokens of a document

Indentation becomes tokens that open and close blocks. A key shows itself only by the colon after
it, so a slot is left before everything that may turn out to be a key. The colon fills the slot;
slots that stay empty are dropped in the end.
-/

namespace TreeScript.Yaml

inductive Token where
  | documentStart
  | documentEnd
  | blockListStart
  | blockMappingStart
  | blockEnd
  | flowListStart
  | flowListEnd
  | flowMappingStart
  | flowMappingEnd
  | blockEntry
  | flowEntry
  | key
  | value
  | scalar (text : String) (isPlain : Bool)
  | anchor (name : String)
  | alias (name : String)
  | tag (tag : Tag)
  | directive (directive : Directive)
  /-- The text cannot be read from here on. -/
  | broken (cause : BadScalar)
  deriving DecidableEq

/-- A token, or a place for the tokens before a key. -/
inductive Piece where
  | token (token : Token)
  | slot (filling : List Token)

def Piece.tokens : Piece → List Token
  | .token inner => [inner]
  | .slot filling => filling

/-- Where a key may have started. -/
structure KeyStart where
  /-- The number of its slot. -/
  slot : Nat
  line : Nat
  column : Nat
  index : Nat
  /-- Whether the block is broken if no key starts here. -/
  isRequired : Bool

/-- The state between two tokens. -/
structure Scanner where
  cursor : Cursor
  pieces : Array Piece
  /-- The columns of the open blocks, the innermost first. -/
  indents : List Nat
  /-- The possible key at each level of brackets, the innermost first. The last one is outside all
  brackets. -/
  keys : List (Option KeyStart)
  /-- Whether a key may start here. -/
  allowsKey : Bool

namespace Scanner

def start (text : List Char) : Scanner := ⟨.start text, #[], [], [none], true⟩

def inFlow (scanner : Scanner) : Bool := 1 < scanner.keys.length

def push (scanner : Scanner) (token : Token) : Scanner :=
  { scanner with pieces := scanner.pieces.push (.token token) }

def moveTo (scanner : Scanner) (cursor : Cursor) : Scanner := { scanner with cursor }

/-- Pass the given number of characters, which make up a token. -/
def take (scanner : Scanner) (count : Nat) (token : Token) : Scanner :=
  (scanner.push token).moveTo (scanner.cursor.skip count)

def allow (scanner : Scanner) (allowsKey : Bool) : Scanner := { scanner with allowsKey }

/-- Pass blanks, comments and line breaks. -/
def toNextToken : Nat → Scanner → Scanner
  | 0, scanner => scanner
  | effort + 1, scanner =>
    let cursor := scanner.cursor.skipBlanks
    let cursor := if cursor.peek == some '#' then (cursor.span fun c => !isBreak c).2 else cursor
    match cursor.lineBreak? with
    | some (_, cursor) =>
      toNextToken effort ((scanner.moveTo cursor).allow (scanner.allowsKey || !scanner.inFlow))
    | none => scanner.moveTo cursor

/-- Forget keys that would have to span lines, or that are too long. -/
def dropStaleKeys? (scanner : Scanner) : Option Scanner := do
  let keys ← scanner.keys.mapM fun
    | none => some none
    | some key =>
      if key.line ≠ scanner.cursor.line ∨ 1024 < scanner.cursor.index - key.index then
        if key.isRequired then none else some none
      else some (some key)
  return { scanner with keys }

/-- Close the blocks that are indented deeper than a column; none closes them all. -/
def unwind (scanner : Scanner) (column : Option Nat) : Scanner :=
  if scanner.inFlow then scanner
  else
    let isClosed (indent : Nat) : Bool := column.all (· < indent)
    let closed := scanner.indents.takeWhile isClosed
    { scanner with
      indents := scanner.indents.dropWhile isClosed
      pieces := scanner.pieces ++ (closed.map fun _ => Piece.token .blockEnd).toArray }

/-- Whether a block at a column would be a new one. -/
def opensAt (scanner : Scanner) (column : Nat) : Bool :=
  match scanner.indents with
  | [] => true
  | indent :: _ => indent < column

/-- Open a block at a column, unless one is open there. -/
def openBlock (scanner : Scanner) (column : Nat) (token : Token) : Scanner :=
  if scanner.opensAt column then { scanner.push token with indents := column :: scanner.indents }
  else scanner

/-- Forget the possible key at this level, which must not be a required one. -/
def dropKey? (scanner : Scanner) : Option Scanner :=
  match scanner.keys with
  | some key :: outer =>
    if key.isRequired then none else some { scanner with keys := none :: outer }
  | _ => some scanner

/-- Note that a key may start here. -/
def noteKey? (scanner : Scanner) : Option Scanner :=
  if scanner.allowsKey then do
    let scanner ← scanner.dropKey?
    let cursor := scanner.cursor
    let isRequired := !scanner.inFlow && scanner.indents.head? == some cursor.column
    let key : KeyStart :=
      ⟨scanner.pieces.size, cursor.line, cursor.column, cursor.index, isRequired⟩
    return { scanner with
      pieces := scanner.pieces.push (.slot [])
      keys := some key :: scanner.keys.drop 1 }
  else some scanner

def openFlow? (scanner : Scanner) (token : Token) : Option Scanner := do
  let scanner ← scanner.noteKey?
  return { (scanner.take 1 token).allow true with keys := none :: scanner.keys }

def closeFlow? (scanner : Scanner) (token : Token) : Option Scanner := do
  if !scanner.inFlow then none
  let scanner ← scanner.dropKey?
  return { (scanner.take 1 token).allow false with keys := scanner.keys.drop 1 }

def flowEntry? (scanner : Scanner) : Option Scanner := do
  let scanner ← scanner.dropKey?
  return (scanner.take 1 .flowEntry).allow true

/-- A separator of documents closes all blocks. -/
def separator? (scanner : Scanner) (token : Token) : Option Scanner := do
  let scanner ← (scanner.unwind none).dropKey?
  return (scanner.take 3 token).allow false

def blockEntry? (scanner : Scanner) : Option Scanner := do
  let scanner ←
    if scanner.inFlow then some scanner
    else if scanner.allowsKey then some (scanner.openBlock scanner.cursor.column .blockListStart)
    else none
  let scanner ← scanner.dropKey?
  return (scanner.take 1 .blockEntry).allow true

/-- A key that is marked as one. -/
def markedKey? (scanner : Scanner) : Option Scanner := do
  let scanner ←
    if scanner.inFlow then some scanner
    else if scanner.allowsKey then some (scanner.openBlock scanner.cursor.column .blockMappingStart)
    else none
  let scanner ← scanner.dropKey?
  return (scanner.take 1 .key).allow !scanner.inFlow

/-- Fill the slot of a key, opening a mapping at its column if none is open there. -/
def fillKey (scanner : Scanner) (key : KeyStart) : Scanner :=
  let opens := !scanner.inFlow && scanner.opensAt key.column
  { scanner with
    pieces := scanner.pieces.setIfInBounds key.slot
      (.slot (if opens then [.blockMappingStart, .key] else [.key]))
    indents := if opens then key.column :: scanner.indents else scanner.indents
    keys := none :: scanner.keys.drop 1 }

/-- A value: of the key before it, or of an empty key. -/
def value? (scanner : Scanner) : Option Scanner :=
  match scanner.keys with
  | some key :: _ => some (((scanner.fillKey key).take 1 .value).allow false)
  | _ => do
    let scanner ←
      if scanner.inFlow then some scanner
      else if scanner.allowsKey then
        some (scanner.openBlock scanner.cursor.column .blockMappingStart)
      else none
    let scanner ← scanner.dropKey?
    return (scanner.take 1 .value).allow !scanner.inFlow

def blockScalar? (scanner : Scanner) : Option Scanner := do
  let scanner ← scanner.dropKey?
  let (text, cursor) ← block? scanner.indents.head? scanner.cursor
  return ((scanner.push (.scalar (String.ofList text) false)).moveTo cursor).allow true

/-- The pieces before the first one that may still change. -/
def settled (scanner : Scanner) : Array Piece :=
  let slots := scanner.keys.filterMap fun key => key.map KeyStart.slot
  scanner.pieces.take (slots.foldl min scanner.pieces.size)

/-- Read no further. What may still have changed is lost. -/
def stop (scanner : Scanner) (cause : BadScalar) : Scanner where
  cursor := { scanner.cursor with rest := [] }
  pieces := scanner.settled.push (.token (.broken cause))
  indents := []
  keys := [none]
  allowsKey := false

def quotedScalar? (scanner : Scanner) : Option Scanner := do
  let scanner ← scanner.noteKey?
  match quoted scanner.cursor with
  | .ok (text, cursor) =>
    return ((scanner.push (.scalar (String.ofList text) false)).moveTo cursor).allow false
  | .error (.badScalar cause) => return scanner.stop cause
  | .error .malformed => none

/-- A property of the node that follows, or a name that stands for a node. -/
def property? (scanner : Scanner) (read : Cursor → Option (Token × Cursor)) : Option Scanner := do
  let scanner ← scanner.noteKey?
  let (token, cursor) ← read scanner.cursor
  return ((scanner.push token).moveTo cursor).allow false

/-- A directive closes all blocks. -/
def directive? (scanner : Scanner) : Option Scanner := do
  let scanner ← (scanner.unwind none).dropKey?
  let (directive, cursor) ← Directive.read? (scanner.cursor.skip 1)
  return ((scanner.push (.directive directive)).moveTo cursor).allow false

def plainScalar? (scanner : Scanner) : Option Scanner := do
  let scanner ← scanner.noteKey?
  let indent := match scanner.indents with
    | [] => 0
    | column :: _ => column + 1
  let (text, gap) := plain scanner.inFlow indent scanner.cursor
  return ((scanner.push (.scalar (String.ofList text) true)).moveTo gap.cursor).allow gap.isBroken

/-- The characters that no plain scalar starts with. -/
def isIndicator (c : Char) : Bool :=
  "-?:,[]\x7b\x7d#&*!|>'\"%@\x60".toList.contains c

/-- Whether a plain scalar starts with a character before another one. -/
def startsPlain (inFlow : Bool) (c : Char) (next : Option Char) : Bool :=
  if endsWord (some c) then false
  else !isIndicator c || (!endsWord next && (c == '-' || (!inFlow && (c == '?' || c == ':'))))

/-- The next token; none if no token starts with the next character. -/
def token? (scanner : Scanner) (c : Char) : Option Scanner :=
  let next := scanner.cursor.peekAt 1
  let atSeparator := scanner.cursor.column == 0 && scanner.cursor.atSeparator
  if c == '%' && scanner.cursor.column == 0 then scanner.directive?
  else if c == '-' && atSeparator then scanner.separator? .documentStart
  else if c == '.' && atSeparator then scanner.separator? .documentEnd
  else if c == '[' then scanner.openFlow? .flowListStart
  else if c == '\x7b' then scanner.openFlow? .flowMappingStart
  else if c == ']' then scanner.closeFlow? .flowListEnd
  else if c == '\x7d' then scanner.closeFlow? .flowMappingEnd
  else if c == ',' then scanner.flowEntry?
  else if c == '-' && endsWord next then scanner.blockEntry?
  else if c == '?' && (scanner.inFlow || endsWord next) then scanner.markedKey?
  else if c == ':' && (scanner.inFlow || endsWord next) then scanner.value?
  else if c == '*' then
    scanner.property? fun cursor => (anchorName? cursor).map fun (name, rest) => (.alias name, rest)
  else if c == '&' then
    scanner.property? fun cursor =>
      (anchorName? cursor).map fun (name, rest) => (.anchor name, rest)
  else if c == '!' then
    scanner.property? fun cursor => (Tag.read? cursor).map fun (tag, rest) => (.tag tag, rest)
  else if (c == '|' || c == '>') && !scanner.inFlow then scanner.blockScalar?
  else if c == '\'' || c == '"' then scanner.quotedScalar?
  else if startsPlain scanner.inFlow c next then scanner.plainScalar?
  else none

/-- All tokens of the rest of a text. -/
def run? : Nat → Scanner → Option Scanner
  | 0, _ => none
  | effort + 1, scanner => do
    let scanner := toNextToken (scanner.cursor.rest.length + 1) scanner
    let scanner ← scanner.dropStaleKeys?
    let scanner := scanner.unwind (some scanner.cursor.column)
    match scanner.cursor.peek with
    | none => (scanner.unwind none).dropKey?
    | some c => do
      let scanner ← scanner.token? c
      run? effort scanner

end Scanner

/-- The characters that a document may hold. -/
def isAllowed (c : Char) : Bool :=
  c == '\t' || c == '\n' || c == '\x85' || ('\x20' ≤ c && c ≤ '\x7e')
    || (0xa0 ≤ c.toNat && c.toNat ≤ 0xd7ff) || (0xe000 ≤ c.toNat && c.toNat ≤ 0xfffd)
    || 0x10000 ≤ c.toNat

/-- The tokens of a text, if it is made of tokens. -/
def tokens? (text : List Char) : Option (List Token) := do
  if !text.all isAllowed then none
  let text := match text with
    | '\ufeff' :: rest => rest
    | text => text
  let scanner ← Scanner.run? (text.length + 1) (.start text)
  if scanner.inFlow then none
  return scanner.pieces.toList.flatMap Piece.tokens

end TreeScript.Yaml
