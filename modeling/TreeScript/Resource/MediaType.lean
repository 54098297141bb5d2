import TreeScript.Charset
import TreeScript.Text.Blank
import TreeScript.Text.Casing

/-! # Media types

A media type is a list of parts between semicolons. A part may be a name with a value, and the value
may be quoted. A value may also be spread over several parts, numbered after their name, and such
parts may be written with percent signs and begin with the character set of the value.
-/

namespace TreeScript.MediaType

/-- The text up to a semicolon outside of quotes, and the rest from there. A quote after a backslash
neither opens nor closes. -/
def splitPart : (last : Char) → (inQuotes : Bool) → List Char → List Char × List Char
  | _, _, [] => ([], [])
  | last, inQuotes, c :: rest =>
    if c = ';' ∧ !inQuotes then ([], c :: rest)
    else
      let (part, after) := splitPart c (inQuotes != (c == '"' && last != '\\')) rest
      (c :: part, after)

/-- The parts of a text, at most `count` of them. -/
def parts : (count : Nat) → List Char → List (List Char)
  | 0, _ => []
  | count + 1, text =>
    match splitPart ' ' false text with
    | (part, _ :: rest) => part :: parts count rest
    | (part, []) => [part]

/-- A text with a sign in place of a backslash and the sign. -/
def unescape (sign : Char) : List Char → List Char
  | '\\' :: c :: rest =>
    if c = sign then sign :: unescape sign rest else '\\' :: unescape sign (c :: rest)
  | c :: rest => c :: unescape sign rest
  | [] => []

/-- A value without the quotes or angle brackets around it. -/
def bare (value : List Char) : List Char :=
  match value with
  | opening :: rest =>
    if opening = '"' ∧ rest.getLast? = some '"' then unescape '"' (unescape '\\' rest.dropLast)
    else if opening = '<' ∧ rest.getLast? = some '>' then rest.dropLast
    else value
  | [] => []

/-- A part with the name before its equals sign in small letters. -/
structure Parameter where
  name : String
  value : List Char

def Parameter.ofPart (part : List Char) : Parameter :=
  let name := stripBlanks (part.takeWhile (· != '='))
  let value := stripBlanks ((part.dropWhile (· != '=')).drop 1)
  ⟨lowerCase (String.ofList name), bare value⟩

/-- A numbered part of a value. -/
structure Segment where
  number : Option Nat
  text : List Char
  /-- Whether it is written with percent signs. -/
  isCoded : Bool

/-- The segment of the value with a name in a parameter, if it is one. -/
def segment? (name : String) (parameter : Parameter) : Option Segment := do
  let start := name.toList ++ ['*']
  if !start.isPrefixOf parameter.name.toList then none
  match parameter.name.toList.drop start.length with
  | [] => return ⟨none, parameter.value, true⟩
  | digits =>
    let isCoded := digits.getLast? == some '*'
    let digits := if isCoded then digits.dropLast else digits
    if digits.isEmpty || !digits.all Char.isDigit then none
    else
      let number := digits.foldl (fun n c => n * 10 + (c.toNat - 0x30)) 0
      return ⟨some number, parameter.value, isCoded⟩

def Segment.comesBefore (a b : Segment) : Bool :=
  match a.number, b.number with
  | some m, some n => m ≤ n
  | none, _ => true
  | some _, none => false

/-- The character with the code of each byte that a text with percent signs stands for. -/
def Segment.plain (segment : Segment) : List Char :=
  if segment.isCoded then
    (Bytes.unescape (segment.text.map Char.toNat)).map Char.ofNat
  else segment.text

/-- A value that begins with the name of its character set and a language, each before a single
quote; without them it is in ASCII. Bytes outside of the set leave the value as it is written. -/
def decodeExtended (value : List Char) : List Char :=
  let isQuote (c : Char) : Bool := c == '\''
  let afterName := value.dropWhile (!isQuote ·)
  let afterLanguage := (afterName.drop 1).dropWhile (!isQuote ·)
  let (charset, text) := match afterLanguage with
    | _ :: text => (String.ofList (value.takeWhile (!isQuote ·)), text)
    | [] => ("", value)
  match Charset.read (if charset.isEmpty then "ascii" else charset) (text.map Char.toNat) with
  | .ok decoded => if decoded.contains Charset.replacement then text else decoded.toList
  | .error _ => text

/-- The value of a name in a media type. -/
def value? (name : String) (mediaType : List Char) : Option (List Char) :=
  let parameters := (parts (mediaType.length + 1) mediaType).map Parameter.ofPart
  match parameters.find? (·.name == name) with
  | some parameter => some parameter.value
  | none =>
    let segments := (parameters.tail.filterMap (segment? name)).mergeSort Segment.comesBefore
    let joined := segments.flatMap Segment.plain
    if segments.isEmpty then none
    else if segments.any (·.isCoded) then some (decodeExtended joined)
    else some joined

/-- A text up to the end of its first line; a line that begins with a blank continues the one before
it. -/
def firstLine : List Char → List Char
  | '\r' :: '\n' :: c :: rest => if c = ' ' ∨ c = '\t' then '\n' :: c :: firstLine rest else []
  | '\r' :: '\n' :: [] => []
  | [c] => if c = '\n' ∨ c = '\r' then [] else [c]
  | c :: next :: rest =>
    if c = '\n' ∨ c = '\r' then
      if next = ' ' ∨ next = '\t' then c :: firstLine (next :: rest) else []
    else c :: firstLine (next :: rest)
  | [] => []

/-- The name of the character set of a media type, in small letters. -/
def charset? (mediaType : List Char) : Option String := do
  let value ← value? "charset" (firstLine mediaType)
  if value.isEmpty || !value.all (·.toNat < 0x80) then none
  else some (String.ofList (value.map Char.toLower))

end TreeScript.MediaType
