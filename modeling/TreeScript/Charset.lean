import TreeScript.Charset.CodePage.Dos
import TreeScript.Charset.CodePage.Iso
import TreeScript.Charset.CodePage.Mac
import TreeScript.Charset.CodePage.Mainframe
import TreeScript.Charset.CodePage.National
import TreeScript.Charset.CodePage.Windows
import TreeScript.Charset.Escaped
import TreeScript.Charset.Wide

/-! # Character sets by name

A name stands for a character set, for a coding of bytes as other bytes, or for nothing. Names are
compared without regard to case and to the signs between their letters and digits.
-/

namespace TreeScript

inductive Charset where
  | ascii
  | utf7
  | utf8
  /-- UTF-8 after a mark that may be absent. -/
  | utf8Marked
  /-- UTF-16 in an order, or in the one that a mark gives. -/
  | utf16 (order : Option Charset.ByteOrder)
  | utf32 (order : Option Charset.ByteOrder)
  | page (table : CodePage)
  /-- Characters written as escapes, of all forms or only with their codes. -/
  | escaped (isFull : Bool)
  /-- A set of several bytes for each character, of which only the ASCII part is read. -/
  | eastAsian

namespace Charset

/-- Bytes as text. -/
def decode : Charset → List Nat → List Char
  | ascii, bytes => bytes.map plainByte
  | utf7, bytes => Charset.utf7From none bytes
  | utf8, bytes => utf8From none bytes
  | utf8Marked, 0xef :: 0xbb :: 0xbf :: rest => utf8From none rest
  | utf8Marked, bytes => utf8From none bytes
  | utf16 (some order), bytes => utf16Units order bytes
  | utf16 none, bytes => utf16Marked bytes
  | utf32 (some order), bytes => utf32Units order bytes
  | utf32 none, bytes => utf32Marked bytes
  | page table, bytes => table.decode bytes
  | escaped isFull, bytes => escapedFrom isFull .plain bytes
  | eastAsian, bytes => bytes.map plainByte

/-- What a name stands for. -/
inductive Coding where
  | charset (charset : Charset)
  /-- A coding of bytes as other bytes. -/
  | ofBytes
  /-- A coding that does not put up with errors, and what it says about that. -/
  | unforgiving (reason : String)

/-- A coding with its name and the other names for it. -/
structure Entry where
  coding : Coding
  name : String
  aliases : List String

def unicodeEntries : List Entry := [
  ⟨.charset .ascii, "ascii", ["646", "ansi_x3.4_1968", "ansi_x3.4_1986", "ansi_x3_4_1968", "cp367",
    "csascii", "ibm367", "iso646_us", "iso_646.irv_1991", "iso_ir_6", "us", "us_ascii"]⟩,
  ⟨.charset .utf7, "utf_7", ["u7", "unicode_1_1_utf_7", "utf7"]⟩,
  ⟨.charset .utf8, "utf_8", ["cp65001", "u8", "utf", "utf8", "utf8_ucs2", "utf8_ucs4"]⟩,
  ⟨.charset .utf8Marked, "utf_8_sig", []⟩,
  ⟨.charset (.utf16 none), "utf_16", ["u16", "utf16"]⟩,
  ⟨.charset (.utf16 (some .little)), "utf_16_le", ["unicodelittleunmarked", "utf_16le"]⟩,
  ⟨.charset (.utf16 (some .big)), "utf_16_be", ["unicodebigunmarked", "utf_16be"]⟩,
  ⟨.charset (.utf32 none), "utf_32", ["u32", "utf32"]⟩,
  ⟨.charset (.utf32 (some .little)), "utf_32_le", ["utf_32le"]⟩,
  ⟨.charset (.utf32 (some .big)), "utf_32_be", ["utf_32be"]⟩]

def eastAsianEntries : List Entry := [
  ⟨.charset .eastAsian, "big5", ["big5_tw", "csbig5", "x_mac_trad_chinese"]⟩,
  ⟨.charset .eastAsian, "big5hkscs", ["big5_hkscs", "hkscs"]⟩,
  ⟨.charset .eastAsian, "cp932", ["932", "ms932", "ms_kanji", "mskanji"]⟩,
  ⟨.charset .eastAsian, "cp949", ["949", "ms949", "uhc"]⟩,
  ⟨.charset .eastAsian, "cp950", ["950", "ms950"]⟩,
  ⟨.charset .eastAsian, "euc_jis_2004", ["euc_jis2004", "eucjis2004", "jisx0213"]⟩,
  ⟨.charset .eastAsian, "euc_jisx0213", ["eucjisx0213"]⟩,
  ⟨.charset .eastAsian, "euc_jp", ["eucjp", "u_jis", "ujis"]⟩,
  ⟨.charset .eastAsian, "euc_kr", ["euckr", "korean", "ks_c_5601", "ks_c_5601_1987", "ks_x_1001",
    "ksc5601", "ksx1001", "x_mac_korean"]⟩,
  ⟨.charset .eastAsian, "gb18030", ["gb18030_2000"]⟩,
  ⟨.charset .eastAsian, "gb2312", ["chinese", "csiso58gb231280", "euc_cn", "euccn", "eucgb2312_cn",
    "gb2312_1980", "gb2312_80", "iso_ir_58", "x_mac_simp_chinese"]⟩,
  ⟨.charset .eastAsian, "gbk", ["936", "cp936", "ms936"]⟩,
  ⟨.charset .eastAsian, "hz", ["hz_gb", "hz_gb_2312", "hzgb"]⟩,
  ⟨.charset .eastAsian, "iso2022_jp", ["csiso2022jp", "iso2022jp", "iso_2022_jp"]⟩,
  ⟨.charset .eastAsian, "iso2022_jp_1", ["iso2022jp_1", "iso_2022_jp_1"]⟩,
  ⟨.charset .eastAsian, "iso2022_jp_2", ["iso2022jp_2", "iso_2022_jp_2"]⟩,
  ⟨.charset .eastAsian, "iso2022_jp_2004", ["iso2022jp_2004", "iso_2022_jp_2004"]⟩,
  ⟨.charset .eastAsian, "iso2022_jp_3", ["iso2022jp_3", "iso_2022_jp_3"]⟩,
  ⟨.charset .eastAsian, "iso2022_jp_ext", ["iso2022jp_ext", "iso_2022_jp_ext"]⟩,
  ⟨.charset .eastAsian, "iso2022_kr", ["csiso2022kr", "iso2022kr", "iso_2022_kr"]⟩,
  ⟨.charset .eastAsian, "johab", ["cp1361", "ms1361"]⟩,
  ⟨.charset .eastAsian, "shift_jis", ["csshiftjis", "s_jis", "shiftjis", "sjis",
    "x_mac_japanese"]⟩,
  ⟨.charset .eastAsian, "shift_jis_2004", ["s_jis_2004", "shiftjis2004", "sjis_2004"]⟩,
  ⟨.charset .eastAsian, "shift_jisx0213", ["s_jisx0213", "shiftjisx0213", "sjisx0213"]⟩]

def otherEntries : List Entry := [
  ⟨.ofBytes, "base64_codec", ["base64", "base_64"]⟩,
  ⟨.ofBytes, "bz2_codec", ["bz2"]⟩,
  ⟨.ofBytes, "hex_codec", ["hex"]⟩,
  ⟨.ofBytes, "quopri_codec", ["quopri", "quoted_printable", "quotedprintable"]⟩,
  ⟨.ofBytes, "rot_13", ["rot13"]⟩,
  ⟨.ofBytes, "uu_codec", ["uu"]⟩,
  ⟨.ofBytes, "zlib_codec", ["zip", "zlib"]⟩,
  ⟨.unforgiving "Unsupported error handling replace", "idna", []⟩,
  ⟨.unforgiving "undefined encoding", "undefined", []⟩,
  ⟨.charset (.escaped true), "unicode_escape", []⟩,
  ⟨.charset (.escaped false), "raw_unicode_escape", []⟩,
  ⟨.charset (.page CodePage.latin1), "charmap", []⟩]

def pages : List CodePage :=
  CodePage.iso ++ CodePage.windows ++ CodePage.dos ++ CodePage.mac ++ CodePage.mainframe
    ++ CodePage.national

def entries : List Entry :=
  unicodeEntries ++ pages.map (fun page => ⟨.charset (.page page), page.name, page.aliases⟩)
    ++ eastAsianEntries ++ otherEntries

/-- A name in small letters, with one low line for the signs between its letters and digits and none
at its ends. Points stay. -/
def normalName (name : String) : String :=
  let isPart (c : Char) : Bool := c.isAlphanum || c == '.'
  let words := (name.toList.map Char.toLower).splitBy fun a b => isPart a == isPart b
  let words := words.filter fun word => word.all isPart
  "_".intercalate (words.map String.ofList)

/-- The coding with a name. Points in a name may stand for low lines, except in the first name of a
coding. -/
def coding? (name : String) : Option Coding :=
  let name := normalName name
  let plain := name.map fun c => if c == '.' then '_' else c
  let found := entries.find? (·.aliases.contains name)
    <|> entries.find? (·.aliases.contains plain)
    <|> entries.find? (·.name == name)
  found.map (·.coding)

/-- Why bytes cannot be read in a character set. -/
inductive Refusal where
  | unknown (name : String)
  | notACharset (name : String)
  | unforgiving (name reason : String)
  /-- The name has a zero character in it. -/
  | brokenName

/-- Bytes as text in the character set with a name; no bytes are text in any of them. -/
def read (name : String) (bytes : List Nat) : Except Refusal String :=
  if name.contains (Char.ofNat 0) then .error .brokenName
  else if bytes.isEmpty then .ok ""
  else match coding? name with
    | none => .error (.unknown name)
    | some .ofBytes => .error (.notACharset name)
    | some (.unforgiving reason) => .error (.unforgiving name reason)
    | some (.charset charset) => .ok (String.ofList (charset.decode bytes))

end Charset

end TreeScript
