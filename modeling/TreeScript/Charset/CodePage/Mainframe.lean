import TreeScript.Charset.CodePage

/-! # Character sets of mainframes

The character sets of mainframes, in which letters and digits do not have their ASCII codes.
-/

namespace TreeScript.CodePage

/-- The control characters, which all these sets have in the same places. -/
def controls : List String := [
  "\x9c\x09\x86\x7f\x97\x8d\x8e\x0b\x0c\x0d\x0e\x0f\x10\x11\x12\x13\x9d\x85\x08\x87\x18\x19",
  "\x92\x8f\x1c\x1d\x1e\x1f",
  "\x80\x81\x82\x83\x84\x0a\x17\x1b\x88\x89\x8a\x8b\x8c\x05\x06\x07\x90\x91\x16\x93\x94\x95",
  "\x96\x04\x98\x99\x9a\x9b\x14\x15\x9e\x1a"]

def cp037 : CodePage where
  name := "cp037"
  aliases := ["037", "csibm037", "ebcdic_cp_ca", "ebcdic_cp_nl", "ebcdic_cp_us", "ebcdic_cp_wt",
    "ibm037", "ibm039"]
  start := 4
  rows := controls ++ [
    " \xa0âäàáãåçñ¢.<(+|&éêëèíîïìß!$*);¬",
    "-/ÂÄÀÁÃÅÇÑ¦,%_>?øÉÊËÈÍÎÏÌ\x60:#@\x27=\"",
    "Øabcdefghi«»ðýþ±°jklmnopqrªºæ¸Æ¤",
    "µ~stuvwxyz¡¿ÐÝÞ®^£¥·©§¶¼½¾[]¯¨´×",
    "\x7bABCDEFGHI\xadôöòóõ\x7dJKLMNOPQR¹ûüùúÿ",
    "\\÷STUVWXYZ²ÔÖÒÓÕ0123456789³ÛÜÙÚ\x9f"]

def cp273 : CodePage where
  name := "cp273"
  aliases := ["273", "csibm273", "ibm273"]
  start := 4
  rows := controls ++ [
    " \xa0â\x7bàáãåçñÄ.<(+!&éêëèíîïì~Ü$*);^",
    "-/Â[ÀÁÃÅÇÑö,%_>?øÉÊËÈÍÎÏÌ\x60:#§\x27=\"",
    "Øabcdefghi«»ðýþ±°jklmnopqrªºæ¸Æ¤",
    "µßstuvwxyz¡¿ÐÝÞ®¢£¥·©@¶¼½¾¬|‾¨´×",
    "äABCDEFGHI\xadô¦òóõüJKLMNOPQR¹û\x7dùúÿ",
    "Ö÷STUVWXYZ²Ô\\ÒÓÕ0123456789³Û]ÙÚ\x9f"]

def cp424 : CodePage :=
  cp037.variant "cp424" ["424", "csibm424", "ebcdic_cp_he", "ibm424"] [(0x41, letters 0x5d0 0x5d8),
    (0x51, letters 0x5d9 0x5e1), (0x62, letters 0x5e2 0x5e9),
    (0x70, "\ufffd\u05ea\ufffd\ufffd\xa0\ufffd\ufffd\ufffd‗"), (0x80, "\ufffd"),
    (0x8c, "\ufffd\ufffd\ufffd"), (0x9a, "\ufffd\ufffd\ufffd¸\ufffd"), (0xaa, missing 5),
    (0xcb, missing 5), (0xdb, missing 5), (0xeb, missing 5), (0xfb, missing 4)]

def cp500 : CodePage :=
  cp037.variant "cp500" ["500", "csibm500", "ebcdic_cp_be", "ebcdic_cp_ch", "ibm500"] [(0x4a, "["),
    (0x4f, "!"), (0x5a, "]"), (0x5f, "^"), (0xb0, "¢"), (0xba, "¬|")]

def cp875 : CodePage where
  name := "cp875"
  aliases := []
  start := 4
  rows := controls ++ [
    " ΑΒΓΔΕΖΗΘΙ[.<(+!&ΚΛΜΝΞΟΠΡΣ]$*);^",
    "-/ΤΥΦΧΨΩΪΫ|,%_>?¨ΆΈΉ\xa0ΊΌΎΏ\x60:#@\x27=\"",
    "΅abcdefghiαβγδεζ°jklmnopqrηθικλμ",
    "´~stuvwxyzνξοπρσ£άέήϊίόύϋώςτυφχψ",
    "\x7bABCDEFGHI\xadωΐΰ‘―\x7dJKLMNOPQR±½\x1a·’¦",
    "\\\x1aSTUVWXYZ²§\x1a\x1a«¬0123456789³©\x1a\x1a»\x9f"]

def cp1026 : CodePage where
  name := "cp1026"
  aliases := ["1026", "csibm1026", "ibm1026"]
  start := 4
  rows := controls ++ [
    " \xa0âäàáãå\x7bñÇ.<(+!&éêëèíîïìßĞİ*);^",
    "-/ÂÄÀÁÃÅ[Ñş,%_>?øÉÊËÈÍÎÏÌı:ÖŞ\x27=Ü",
    "Øabcdefghi«»\x7d\x60¦±°jklmnopqrªºæ¸Æ¤",
    "µöstuvwxyz¡¿]$@®¢£¥·©§¶¼½¾¬|¯¨´×",
    "çABCDEFGHI\xadô~òóõğJKLMNOPQR¹û\\ùúÿ",
    "ü÷STUVWXYZ²Ô#ÒÓÕ0123456789³Û\"ÙÚ\x9f"]

def cp1140 : CodePage :=
  cp037.variant "cp1140" ["1140", "ibm1140"] [(0x9f, "€")]

def mainframe : List CodePage := [cp037, cp273, cp424, cp500, cp875, cp1026, cp1140]

end TreeScript.CodePage
