/-! # Bytes of a resource

The notations in which an address carries bytes.
-/

namespace TreeScript.Bytes

/-- The value of an ASCII hexadecimal digit. -/
def hexValue? (byte : Nat) : Option Nat :=
  if 0x30 ≤ byte ∧ byte ≤ 0x39 then some (byte - 0x30)
  else if 0x41 ≤ byte ∧ byte ≤ 0x46 then some (byte - 0x41 + 10)
  else if 0x61 ≤ byte ∧ byte ≤ 0x66 then some (byte - 0x61 + 10)
  else none

/-- Bytes with every percent sign and two hexadecimal digits read as one byte. -/
def unescape : List Nat → List Nat
  | 0x25 :: high :: low :: rest =>
    match hexValue? high, hexValue? low with
    | some h, some l => (16 * h + l) :: unescape rest
    | _, _ => 0x25 :: unescape (high :: low :: rest)
  | byte :: rest => byte :: unescape rest
  | [] => []

/-- The six bits that a character of the base 64 alphabet stands for. -/
def sixBits? (byte : Nat) : Option Nat :=
  if 0x41 ≤ byte ∧ byte ≤ 0x5a then some (byte - 0x41)
  else if 0x61 ≤ byte ∧ byte ≤ 0x7a then some (byte - 0x61 + 26)
  else if 0x30 ≤ byte ∧ byte ≤ 0x39 then some (byte - 0x30 + 52)
  else if byte = 0x2b then some 62
  else if byte = 0x2f then some 63
  else none

/-- The bytes in a list of six-bit groups; an incomplete last byte is dropped. -/
def packSixBits : List Nat → List Nat
  | a :: b :: c :: d :: rest =>
    (a * 4 + b / 16) :: (b % 16 * 16 + c / 4) :: (c % 4 * 64 + d) :: packSixBits rest
  | [a, b, c] => [a * 4 + b / 16, b % 16 * 16 + c / 4]
  | [a, b] => [a * 4 + b / 16]
  | _ => []

/-- The six-bit groups up to the padding, and how many padding marks complete the last quartet;
other bytes are skipped. -/
def groups : List Nat → Nat → Nat → List Nat × Nat
  | [], _, pads => ([], pads)
  | byte :: rest, position, pads =>
    if byte = 0x3d then
      if 2 ≤ position ∧ 4 ≤ position + pads + 1 then ([], pads + 1)
      else groups rest position (if 2 ≤ position then pads + 1 else pads)
    else match sixBits? byte with
      | some bits =>
        let (more, pads) := groups rest ((position + 1) % 4) 0
        (bits :: more, pads)
      | none => groups rest position pads

def base64 (bytes : List Nat) : Except String (List Nat) :=
  let (bits, pads) := groups bytes 0 0
  let position := bits.length % 4
  if position = 0 ∨ (2 ≤ position ∧ 4 ≤ position + pads) then .ok (packSixBits bits)
  else if position = 1 then
    let count := bits.length
    .error (s!"Invalid base64-encoded string: number of data characters ({count}) cannot be "
      ++ "1 more than a multiple of 4")
  else .error "Incorrect padding"

end TreeScript.Bytes
