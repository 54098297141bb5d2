import TreeScript.Charset.Utf8

/-! # Character sets of one byte

A set of at most 256 characters is given by a table. Bytes before its start stand for the characters
with their codes.
-/

namespace TreeScript

structure CodePage where
  name : String
  aliases : List String
  /-- The first byte of the table. -/
  start : Nat
  rows : List String

namespace CodePage

/-- The characters with the codes from one to another. -/
def letters (first last : Nat) : String :=
  String.ofList ((List.range (last + 1 - first)).map fun n => Char.ofNat (first + n))

/-- Bytes that stand for no character. -/
def missing (count : Nat) : String := String.ofList (List.replicate count '\ufffd')

/-- The characters of the table in order; the replacement character stands for none. -/
def table (page : CodePage) : List Char := page.rows.flatMap String.toList

def decode (page : CodePage) (bytes : List Nat) : List Char :=
  let table := page.table.toArray
  bytes.map fun byte =>
    if byte < page.start then Char.ofNat byte
    else table.getD (byte - page.start) Charset.replacement

/-- A page that differs from another one by the texts in place from some bytes on. -/
def variant (base : CodePage) (name : String) (aliases : List String) (changes : List (Nat × String)) :
    CodePage where
  name := name
  aliases := aliases
  start := 0
  rows :=
    let change (table : List Char) : Nat × String → List Char
      | (byte, text) => table.take byte ++ text.toList ++ table.drop (byte + text.length)
    [String.ofList (changes.foldl change (base.decode (List.range 256)))]

end CodePage

end TreeScript
