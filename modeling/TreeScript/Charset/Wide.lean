import TreeScript.Charset.Utf8
import TreeScript.Resource.Bytes

/-! # UTF-16, UTF-32 and UTF-7

Bytes read in units of two or four bytes, and in the notation that writes units of two bytes in
base 64 between ASCII characters. What is no character is read as the replacement character.
-/

namespace TreeScript.Charset

-- Powers are those of the core library, whatever else is in scope.
attribute [local instance (high)] instPowNat

inductive ByteOrder where
  | little
  | big
  deriving DecidableEq

/-- The number that bytes in an order stand for. -/
def ByteOrder.value (order : ByteOrder) (bytes : List Nat) : Nat :=
  let inOrder := match order with
    | little => bytes.reverse
    | big => bytes
  inOrder.foldl (fun value byte => value * 256 + byte) 0

def isHighSurrogate (unit : Nat) : Bool := 0xd800 ≤ unit && unit < 0xdc00

def isLowSurrogate (unit : Nat) : Bool := 0xdc00 ≤ unit && unit < 0xe000

def joinSurrogates (high low : Nat) : Char :=
  Char.ofNat (0x10000 + (high - 0xd800) * 0x400 + (low - 0xdc00))

/-- Bytes read in units of two; a high surrogate near the end takes all that is left with it. -/
def utf16Units (order : ByteOrder) : List Nat → List Char
  | [] => []
  | [_] => [replacement]
  | a :: b :: rest =>
    let unit := order.value [a, b]
    if isLowSurrogate unit then replacement :: utf16Units order rest
    else if isHighSurrogate unit then
      match rest with
      | c :: d :: more =>
        let second := order.value [c, d]
        if isLowSurrogate second then joinSurrogates unit second :: utf16Units order more
        else replacement :: utf16Units order (c :: d :: more)
      | _ => [replacement]
    else Char.ofNat unit :: utf16Units order rest

/-- Bytes in units of two, in the order that a mark at their start gives. -/
def utf16Marked : List Nat → List Char
  | 0xff :: 0xfe :: rest => utf16Units .little rest
  | 0xfe :: 0xff :: rest => utf16Units .big rest
  | bytes => utf16Units .little bytes

/-- Bytes read in units of four. -/
def utf32Units (order : ByteOrder) : List Nat → List Char
  | a :: b :: c :: d :: rest =>
    let code := order.value [a, b, c, d]
    (if code.isValidChar then Char.ofNat code else replacement) :: utf32Units order rest
  | [] => []
  | _ => [replacement]

/-- Bytes in units of four, in the order that a mark at their start gives. -/
def utf32Marked : List Nat → List Char
  | 0xff :: 0xfe :: 0 :: 0 :: rest => utf32Units .little rest
  | 0 :: 0 :: 0xfe :: 0xff :: rest => utf32Units .big rest
  | bytes => utf32Units .little bytes

/-- A run of base 64 digits: the bits not yet used, their number, and a high surrogate that waits
for its other half. -/
structure Shift where
  bits : Nat
  count : Nat
  high : Option Nat

/-- Whether a run may end here. -/
def Shift.isWhole (shift : Shift) : Bool := shift.count < 6 && shift.bits == 0

/-- The characters that six more bits complete. -/
def Shift.add (shift : Shift) (six : Nat) : List Char × Shift :=
  let bits := shift.bits * 64 + six
  let count := shift.count + 6
  if count < 16 then ([], ⟨bits, count, shift.high⟩)
  else
    let unit := bits / 2 ^ (count - 16)
    let bits := bits % 2 ^ (count - 16)
    let count := count - 16
    match shift.high with
    | some high =>
      if isLowSurrogate unit then ([joinSurrogates high unit], ⟨bits, count, none⟩)
      else if isHighSurrogate unit then ([replacement], ⟨bits, count, some unit⟩)
      else ([replacement, Char.ofNat unit], ⟨bits, count, none⟩)
    | none =>
      if isHighSurrogate unit then ([], ⟨bits, count, some unit⟩)
      else if isLowSurrogate unit then ([replacement], ⟨bits, count, none⟩)
      else ([Char.ofNat unit], ⟨bits, count, none⟩)

/-- A byte outside the runs of UTF-7. -/
def plainByte (byte : Nat) : Char := if byte < 0x80 then Char.ofNat byte else replacement

/-- Bytes read as UTF-7, within a run or outside. A plus sign begins a run, which ends before the
first byte that is no digit; a hyphen that ends a run is part of it. -/
def utf7From : Option Shift → List Nat → List Char
  | none, [] => []
  | some shift, [] => if shift.isWhole && shift.high.isNone then [] else [replacement]
  | none, byte :: rest =>
    if byte = 0x2b then
      match rest with
      | [] => []
      | next :: more =>
        if next = 0x2d then '+' :: utf7From none more
        else if (Bytes.sixBits? next).isSome then utf7From (some ⟨0, 0, none⟩) (next :: more)
        else replacement :: utf7From none more
    else plainByte byte :: utf7From none rest
  | some shift, byte :: rest =>
    match Bytes.sixBits? byte with
    | some six =>
      let (chars, shift) := shift.add six
      chars ++ utf7From (some shift) rest
    | none =>
      let unfinished := if shift.high.isSome && byte < 0x80 then [replacement] else []
      if !shift.isWhole then replacement :: utf7From none rest
      else if byte = 0x2d then unfinished ++ utf7From none rest
      else unfinished ++ plainByte byte :: utf7From none rest

end TreeScript.Charset
