import TreeScript.Document.Basic

/-! # Documents in JSON notation

The reader takes standard JSON and, besides, the number names `NaN`, `Infinity` and `-Infinity`. A
number without fraction and exponent is an integer of any size; every other number is a double.
Every recursive call of the reader consumes a character, so the length of the text bounds its depth.
-/

namespace TreeScript.Json

def isSpace (c : Char) : Bool := c == ' ' || c == '\t' || c == '\n' || c == '\r'

def skipSpace (cs : List Char) : List Char := cs.dropWhile isSpace

def hexValue? (c : Char) : Option Nat :=
  if '0' ≤ c ∧ c ≤ '9' then some (c.toNat - '0'.toNat)
  else if 'a' ≤ c ∧ c ≤ 'f' then some (c.toNat - 'a'.toNat + 10)
  else if 'A' ≤ c ∧ c ≤ 'F' then some (c.toNat - 'A'.toNat + 10)
  else none

/-- The value of four hexadecimal digits, and the rest. -/
def unit? : List Char → Option (Nat × List Char)
  | a :: b :: c :: d :: rest => do
    let high := (← hexValue? a) * 16 + (← hexValue? b)
    let low := (← hexValue? c) * 16 + (← hexValue? d)
    return (high * 256 + low, rest)
  | _ => none

/-- The character of a single UTF-16 unit; half of a surrogate pair becomes the replacement
character. -/
def ofUnit (unit : Nat) : Char :=
  if 0xd800 ≤ unit ∧ unit ≤ 0xdfff then '\ufffd' else Char.ofNat unit

/-- The character after `\u`: four digits, or a surrogate pair of two escapes. -/
def escapedUnit? (cs : List Char) : Option (Char × List Char) := do
  let (high, rest) ← unit? cs
  if 0xd800 ≤ high ∧ high ≤ 0xdbff then
    match rest with
    | '\\' :: 'u' :: more =>
      match unit? more with
      | some (low, after) =>
        if 0xdc00 ≤ low ∧ low ≤ 0xdfff then
          return (Char.ofNat (0x10000 + (high - 0xd800) * 0x400 + (low - 0xdc00)), after)
        return (ofUnit high, rest)
      | none => none
    | _ => return (ofUnit high, rest)
  return (ofUnit high, rest)

/-- The character that a one-letter escape stands for. -/
def escaped? (c : Char) : Option Char :=
  match c with
  | '"' => some '"'
  | '\\' => some '\\'
  | '/' => some '/'
  | 'b' => some '\x08'
  | 'f' => some '\x0c'
  | 'n' => some '\n'
  | 'r' => some '\r'
  | 't' => some '\t'
  | _ => none

/-- The characters of a text up to its closing quote, collected last first, and the rest. -/
def chars? : Nat → List Char → List Char → Option (List Char × List Char)
  | 0, _, _ => none
  | fuel + 1, seen, cs =>
    match cs with
    | '"' :: rest => some (seen.reverse, rest)
    | '\\' :: 'u' :: rest => do
      let (c, rest) ← escapedUnit? rest
      chars? fuel (c :: seen) rest
    | '\\' :: e :: rest => do
      let c ← escaped? e
      chars? fuel (c :: seen) rest
    | c :: rest => if c.toNat < 0x20 then none else chars? fuel (c :: seen) rest
    | [] => none

/-- The text after an opening quote. -/
def text? (cs : List Char) : Option (String × List Char) :=
  (chars? (cs.length + 1) [] cs).map fun (cs, rest) => (String.ofList cs, rest)

def digitsValue (digits : List Char) : Nat :=
  digits.foldl (fun value c => value * 10 + (c.toNat - '0'.toNat)) 0

/-- The digits after a decimal point, if there are any. -/
def fraction (cs : List Char) : List Char × List Char :=
  match cs with
  | '.' :: rest =>
    match rest.takeWhile Char.isDigit with
    | [] => ([], cs)
    | digits => (digits, rest.dropWhile Char.isDigit)
  | _ => ([], cs)

/-- An exponent, if there is a complete one. -/
def exponent? (cs : List Char) : Option Int × List Char :=
  match cs with
  | e :: rest =>
    if e = 'e' ∨ e = 'E' then
      let (negative, rest) := match rest with
        | '-' :: rest => (true, rest)
        | '+' :: rest => (false, rest)
        | rest => (false, rest)
      match rest.takeWhile Char.isDigit with
      | [] => (none, cs)
      | digits =>
        let magnitude : Int := digitsValue digits
        (some (if negative then -magnitude else magnitude), rest.dropWhile Char.isDigit)
    else (none, cs)
  | [] => (none, [])

/-- A number without its sign, and the rest. -/
def number? (negative : Bool) (cs : List Char) : Option (Scalar × List Char) :=
  let whole := match cs with
    | '0' :: _ => ['0']
    | _ => cs.takeWhile Char.isDigit
  if whole.isEmpty then none
  else
    let (places, rest) := fraction (cs.drop whole.length)
    let (power, rest) := exponent? rest
    if places.isEmpty && power.isNone then
      let value : Int := digitsValue whole
      some (.int (if negative then -value else value), rest)
    else
      let decimal : Decimal := ⟨digitsValue (whole ++ places), power.getD 0 - places.length⟩
      some (.float (.ofDecimal negative decimal), rest)

/-- The scalar names of the notation. -/
def names : List (String × Scalar) :=
  [("null", .null), ("true", .bool true), ("false", .bool false), ("NaN", .float .nan),
   ("Infinity", .float (.infinite false)), ("-Infinity", .float (.infinite true))]

/-- What remains of a text that starts with the given characters. -/
def after? : List Char → List Char → Option (List Char)
  | [], cs => some cs
  | _ :: _, [] => none
  | p :: ps, c :: cs => if p = c then after? ps cs else none

def scalar? (cs : List Char) : Option (Scalar × List Char) :=
  match names.findSome? fun (name, value) => (after? name.toList cs).map (value, ·) with
  | some found => some found
  | none =>
    match cs with
    | '"' :: rest => (text? rest).map fun (text, rest) => (.string text, rest)
    | '-' :: rest => number? true rest
    | rest => number? false rest

mutual

/-- A value and the rest; the text starts at the value. -/
def value? : Nat → List Char → Option (Document × List Char)
  | 0, _ => none
  | fuel + 1, cs =>
    match cs with
    | '[' :: rest =>
      match skipSpace rest with
      | ']' :: rest => some (.list [], rest)
      | rest => items? fuel [] rest
    | '\x7b' :: rest =>
      match skipSpace rest with
      | '\x7d' :: rest => some (.mapping [], rest)
      | rest => members? fuel [] rest
    | rest => (scalar? rest).map fun (value, rest) => (.scalar value, rest)

/-- The items of a list from the next one on, after those already seen, last first. -/
def items? : Nat → List Document → List Char → Option (Document × List Char)
  | 0, _, _ => none
  | fuel + 1, seen, cs => do
    let (item, rest) ← value? fuel cs
    match skipSpace rest with
    | ',' :: rest => items? fuel (item :: seen) (skipSpace rest)
    | ']' :: rest => return (.list (item :: seen).reverse, rest)
    | _ => none

/-- The members of a mapping from the next one on, after those already seen, last first. -/
def members? : Nat → List (Scalar × Document) → List Char → Option (Document × List Char)
  | 0, _, _ => none
  | fuel + 1, seen, cs => do
    let '"' :: rest := cs | none
    let (key, rest) ← text? rest
    let ':' :: rest := skipSpace rest | none
    let (value, rest) ← value? fuel (skipSpace rest)
    let entry := (Scalar.string key, value)
    match skipSpace rest with
    | ',' :: rest => members? fuel (entry :: seen) (skipSpace rest)
    | '\x7d' :: rest => return (.ofEntries (entry :: seen).reverse, rest)
    | _ => none

end

end TreeScript.Json

namespace TreeScript

/-- Read a whole text in JSON notation. -/
def Document.ofJson? (text : String) : Option Document := do
  let cs := Json.skipSpace text.toList
  let (document, rest) ← Json.value? (cs.length + 1) cs
  guard (Json.skipSpace rest).isEmpty
  return document

end TreeScript
