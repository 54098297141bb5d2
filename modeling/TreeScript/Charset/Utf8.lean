/-! # UTF-8

Bytes read as UTF-8. Bytes that no character has are read as the replacement character: one for each
longest beginning of a character that is not completed, and one for each byte that begins none.
-/

namespace TreeScript.Charset

def replacement : Char := Char.ofNat 0xfffd

/-- A character begun: the bytes still missing, the bits so far and the range of the next byte. -/
structure Pending where
  missing : Nat
  bits : Nat
  low : Nat
  high : Nat

/-- What a byte starts in UTF-8. -/
inductive Lead where
  | character (c : Char)
  | begins (pending : Pending)
  | invalid

def lead (byte : Nat) : Lead :=
  if byte < 0x80 then .character (Char.ofNat byte)
  else if 0xc2 ≤ byte ∧ byte ≤ 0xdf then .begins ⟨1, byte - 0xc0, 0x80, 0xbf⟩
  else if byte = 0xe0 then .begins ⟨2, 0, 0xa0, 0xbf⟩
  else if byte = 0xed then .begins ⟨2, 0xd, 0x80, 0x9f⟩
  else if 0xe1 ≤ byte ∧ byte ≤ 0xef then .begins ⟨2, byte - 0xe0, 0x80, 0xbf⟩
  else if byte = 0xf0 then .begins ⟨3, 0, 0x90, 0xbf⟩
  else if byte = 0xf4 then .begins ⟨3, 4, 0x80, 0x8f⟩
  else if 0xf1 ≤ byte ∧ byte ≤ 0xf3 then .begins ⟨3, byte - 0xf0, 0x80, 0xbf⟩
  else .invalid

/-- The characters a byte completes at a place where none is begun, and the one it begins. -/
def start (byte : Nat) : List Char × Option Pending :=
  match lead byte with
  | .character c => ([c], none)
  | .begins pending => ([], some pending)
  | .invalid => ([replacement], none)

/-- The characters a byte completes, and the one that is then begun. -/
def feed (byte : Nat) : Option Pending → List Char × Option Pending
  | none => start byte
  | some pending =>
    if pending.low ≤ byte ∧ byte ≤ pending.high then
      let bits := pending.bits * 64 + (byte - 0x80)
      if pending.missing = 1 then ([Char.ofNat bits], none)
      else ([], some ⟨pending.missing - 1, bits, 0x80, 0xbf⟩)
    else
      let (chars, next) := start byte
      (replacement :: chars, next)

/-- Bytes read as UTF-8, after a character that may have been begun. -/
def utf8From : Option Pending → List Nat → List Char
  | none, [] => []
  | some _, [] => [replacement]
  | pending, byte :: rest =>
    let (chars, next) := feed byte pending
    chars ++ utf8From next rest

/-- The bytes of a text in UTF-8. -/
def bytesOf (text : List Char) : List Nat :=
  ((String.ofList text).toUTF8.toList).map UInt8.toNat

end TreeScript.Charset
