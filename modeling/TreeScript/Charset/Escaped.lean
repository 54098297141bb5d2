import TreeScript.Charset.Utf8
import TreeScript.Resource.Bytes

/-! # Characters written as escapes

Bytes that stand for the characters with their codes, except after a backslash: there a letter tells
how many hexadecimal digits of a code follow. An escape that breaks off is read as the replacement
character.
-/

namespace TreeScript.Charset

/-- A byte after a backslash that stands for one character. -/
def simpleEscape? (byte : Nat) : Option Nat :=
  [(0x5c, 0x5c), (0x27, 0x27), (0x22, 0x22), (0x61, 7), (0x62, 8), (0x74, 9), (0x6e, 10),
    (0x76, 11), (0x66, 12), (0x72, 13)].lookup byte

/-- The number of hexadecimal digits that a letter after a backslash announces. -/
def escapeWidth? (isFull : Bool) (byte : Nat) : Option Nat :=
  if byte = 0x75 then some 4
  else if byte = 0x55 then some 8
  else if byte = 0x78 ∧ isFull then some 2
  else none

def isOctal (byte : Nat) : Bool := 0x30 ≤ byte && byte ≤ 0x37

/-- A place in a text with escapes. -/
inductive EscapeState where
  | plain
  | backslash
  /-- Within an octal number, which may have so many more digits. -/
  | octal (code missing : Nat)
  /-- Within a hexadecimal number, which has so many more digits. -/
  | hexadecimal (code missing : Nat)

/-- The character with a code, if there is one. -/
def charOfCode (code : Nat) : Char := if code.isValidChar then Char.ofNat code else replacement

/-- What a byte outside of numbers completes, and the place after it. -/
def plainStep (byte : Nat) : List Char × EscapeState :=
  if byte = 0x5c then ([], .backslash) else ([Char.ofNat byte], .plain)

/-- What a byte completes, and the place after it. Only full escapes have forms other than the codes
of four or eight digits. -/
def escapeStep (isFull : Bool) (byte : Nat) : EscapeState → List Char × EscapeState
  | .plain => plainStep byte
  | .backslash =>
    match escapeWidth? isFull byte with
    | some width => ([], .hexadecimal 0 width)
    | none =>
      if !isFull then (['\\', Char.ofNat byte], .plain)
      else if byte = 10 then ([], .plain)
      else if isOctal byte then ([], .octal (byte - 0x30) 2)
      else match simpleEscape? byte with
        | some code => ([Char.ofNat code], .plain)
        | none => (['\\', Char.ofNat byte], .plain)
  | .octal code missing =>
    if isOctal byte then
      let code := code * 8 + (byte - 0x30)
      if missing = 1 then ([Char.ofNat code], .plain) else ([], .octal code (missing - 1))
    else
      let (chars, next) := plainStep byte
      (Char.ofNat code :: chars, next)
  | .hexadecimal code missing =>
    match Bytes.hexValue? byte with
    | some value =>
      let code := code * 16 + value
      if missing = 1 then ([charOfCode code], .plain) else ([], .hexadecimal code (missing - 1))
    | none =>
      let (chars, next) := plainStep byte
      (replacement :: chars, next)

/-- Bytes with escapes, from a place in them. -/
def escapedFrom (isFull : Bool) : EscapeState → List Nat → List Char
  | .plain, [] => []
  | .octal code _, [] => [Char.ofNat code]
  | .backslash, [] => if isFull then [replacement] else ['\\']
  | .hexadecimal _ _, [] => [replacement]
  | state, byte :: rest =>
    let (chars, next) := escapeStep isFull byte state
    chars ++ escapedFrom isFull next rest

end TreeScript.Charset
