import TreeScript.Charset.CodePage

/-! # Character sets of the Macintosh

The character sets of the Macintosh, one byte for each character.
-/

namespace TreeScript.CodePage

def macRoman : CodePage where
  name := "mac_roman"
  aliases := ["macintosh", "macroman"]
  start := 128
  rows := [
    "ÄÅÇÉÑÖÜáàâäãåçéèêëíìîïñóòôöõúùûü",
    "†°¢£§•¶ß®©™´¨≠ÆØ∞±≤≥¥µ∂∑∏π∫ªºΩæø",
    "¿¡¬√ƒ≈∆«»…\xa0ÀÃÕŒœ–—“”‘’÷◊ÿŸ⁄€‹›ﬁﬂ",
    "‡·‚„‰ÂÊÁËÈÍÎÏÌÓÔ\uf8ffÒÚÛÙıˆ˜¯˘˙˚¸˝˛ˇ"]

def macArabic : CodePage where
  name := "mac_arabic"
  aliases := []
  start := 128
  rows := [
    "Ä\xa0ÇÉÑÖÜáàâä\u06ba«çéèêëí…îïñó»ôö÷úùûü", " !\"#$٪&\x27()*+،-./", letters 0x660 0x669,
    ":\u061b<=>\u061f❊", letters 0x621 0x63a, "[\\]^_", letters 0x640 0x652,
    "\u067e\u0679\u0686\u06d5\u06a4\u06af\u0688\u0691\x7b|\x7d\u0698\u06d2"]

def macCroatian : CodePage :=
  macRoman.variant "mac_croatian" [] [(0xa9, "Š"), (0xae, "Ž"), (0xb4, "∆"), (0xb9, "š"),
    (0xbe, "ž"), (0xc6, "Ć«Č"), (0xd0, "Đ"), (0xd8, "\uf8ff©"), (0xde, "Æ»–"), (0xe6, "ćÁč"),
    (0xf0, "đ"), (0xf9, "πË˚¸Êæ")]

def macCyrillic : CodePage where
  name := "mac_cyrillic"
  aliases := ["maccyrillic"]
  start := 128
  rows := [
    "АБВГДЕЖЗИЙКЛМНОПРСТУФХЦЧШЩЪЫЬЭЮЯ",
    "†°Ґ£§•¶І®©™Ђђ≠Ѓѓ∞±≤≥іµґЈЄєЇїЉљЊњ",
    "јЅ¬√ƒ≈∆«»…\xa0ЋћЌќѕ–—“”‘’÷„ЎўЏџ№Ёёя",
    "абвгдежзийклмнопрстуфхцчшщъыьэю€"]

def macFarsi : CodePage :=
  macArabic.variant "mac_farsi" [] [(0xb0, "۰۱۲۳۴۵۶۷۸۹")]

def macGreek : CodePage where
  name := "mac_greek"
  aliases := ["macgreek"]
  start := 128
  rows := [
    "Ä¹²É³ÖÜ΅àâä΄¨çéèêë£™îï•½‰ôö¦€ùûü",
    "†ΓΔΘΛΞΠß®©ΣΪ§≠°·Α±≤≥¥ΒΕΖΗΙΚΜΦΫΨΩ",
    "άΝ¬ΟΡ≈Τ«»…\xa0ΥΧΆΈœ–―“”‘’÷ΉΊΌΎέήίόΏ",
    "ύαβψδεφγηιξκλμνοπώρστθωςχυζϊϋΐΰ\xad"]

def macIceland : CodePage :=
  macRoman.variant "mac_iceland" ["maciceland"] [(0xa0, "Ý"), (0xdc, "ÐðÞþý")]

def macLatin2 : CodePage where
  name := "mac_latin2"
  aliases := ["mac_centeuro", "maccentraleurope", "maclatin2"]
  start := 128
  rows := [
    "ÄĀāÉĄÖÜáąČäčĆćéŹźĎíďĒēĖóėôöõúĚěü",
    "†°Ę£§•¶ß®©™ę¨≠ģĮįĪ≤≥īĶ∂∑łĻļĽľĹĺŅ",
    "ņŃ¬√ńŇ∆«»…\xa0ňŐÕőŌ–—“”‘’÷◊ōŔŕŘ‹›řŖ",
    "ŗŠ‚„šŚśÁŤťÍŽžŪÓÔūŮÚůŰűŲųÝýķŻŁżĢˇ"]

def macRomanian : CodePage :=
  macRoman.variant "mac_romanian" [] [(0xae, "ĂȘ"), (0xbe, "ăș"), (0xde, "Țț")]

def macTurkish : CodePage :=
  macRoman.variant "mac_turkish" ["macturkish"] [(0xda, "ĞğİıŞş"), (0xf5, "\uf8a0")]

def mac : List CodePage := [macArabic, macCroatian, macCyrillic, macFarsi, macGreek, macIceland,
  macLatin2, macRoman, macRomanian, macTurkish]

end TreeScript.CodePage
