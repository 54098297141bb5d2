import TreeScript.Charset.CodePage.Windows

/-! # Character sets of single countries

Character sets of single countries and makers, one byte for each character.
-/

namespace TreeScript.CodePage

def koi8R : CodePage where
  name := "koi8_r"
  aliases := ["cskoi8r"]
  start := 128
  rows := [
    "─│┌┐└┘├┤┬┴┼▀▄█▌▐░▒▓⌠■∙√≈≤≥\xa0⌡°²·÷",
    "═║╒ё╓╔╕╖╗╘╙╚╛╜╝╞╟╠╡Ё╢╣╤╥╦╧╨╩╪╫╬©",
    "юабцдефгхийклмнопярстужвьызшэщчъ",
    "ЮАБЦДЕФГХИЙКЛМНОПЯРСТУЖВЬЫЗШЭЩЧЪ"]

def koi8T : CodePage where
  name := "koi8_t"
  aliases := []
  start := 128
  rows := [
    "қғ‚Ғ„…†‡\ufffd‰ҳ‹ҲҷҶ\ufffdҚ‘’“”•–—\ufffd™\ufffd›", missing 5,
    "ӯӮё¤ӣ¦§\ufffd\ufffd\ufffd«¬\xad®\ufffd°±²Ё\ufffdӢ¶·\ufffd№\ufffd»\ufffd\ufffd\ufffd©ю",
    "абцдефгхийклмнопярстужвьызшэщчъЮ", "АБЦДЕФГХИЙКЛМНОПЯРСТУЖВЬЫЗШЭЩЧЪ"]

def koi8U : CodePage :=
  koi8R.variant "koi8_u" [] [(0xa4, "є╔ії"), (0xad, "ґ"), (0xb4, "Є╣ІЇ"), (0xbd, "Ґ")]

def kz1048 : CodePage :=
  cp1251.variant "kz1048" ["kz_1048", "rk1048", "strk1048_2002"] [(0x8d, "ҚҺ"),
    (0x9d, "қһџ\xa0ҰұӘ¤Ө"), (0xaa, "Ғ"), (0xaf, "Ү"), (0xb4, "ө"), (0xba, "ғ»әҢңү")]

def ptcp154 : CodePage :=
  cp1251.variant "ptcp154" ["cp154", "csptcp154", "cyrillic_asian", "pt154"] [
    (0x80, "ҖҒӮғ„…ҶҮҲүҠӢҢҚҺҸҗ"), (0x98, "ҳҷҡӣңқһҹ"), (0xa4, "ӨҘҰ"), (0xaa, "Ә«¬ӯ®Ҝ°ұІіҙө"),
    (0xba, "ә»јҪҫҝ")]

def cp1006 : CodePage where
  name := "cp1006"
  aliases := []
  start := 161
  rows := [
    "۰۱۲۳۴۵۶۷۸۹،\u061b\xad\u061f\ufe81\ufe8d\ufe8e\ufe8e\ufe8f\ufe91\ufb56\ufb58\ufe93\ufe95",
    "\ufe97\ufb66\ufb68\ufe99\ufe9b\ufe9d\ufe9f\ufb7a\ufb7c\ufea1\ufea3\ufea5\ufea7\ufea9\ufb84",
    "\ufeab\ufead\ufb8c\ufeaf\ufb8a\ufeb1\ufeb3\ufeb5\ufeb7\ufeb9\ufebb\ufebd\ufebf\ufec1\ufec5",
    letters 0xfec9 0xfed1,
    "\ufed3\ufed5\ufed7\ufed9\ufedb\ufb92\ufb94\ufedd\ufedf\ufee0\ufee1\ufee3\ufb9e\ufee5\ufee7",
    "\ufe85\ufeed\ufba6\ufba8\ufba9\ufbaa\ufe80\ufe89\ufe8a\ufe8b\ufef1\ufef2\ufef3\ufbb0\ufbae",
    "\ufe7c\ufe7d"]

def hpRoman8 : CodePage where
  name := "hp_roman8"
  aliases := ["cp1051", "csHPRoman8", "ibm1051", "r8", "roman8"]
  start := 161
  rows := [
    "ÀÂÈÊËÎÏ´ˋˆ¨˜ÙÛ₤¯Ýý°ÇçÑñ¡¿¤£¥§ƒ¢",
    "âêôûáéóúàèòùäëöüÅîØÆåíøæÄìÖÜÉïßÔ",
    "ÁÃãÐðÍÌÓÒÕõŠšÚŸÿÞþ·µ¶¾—¼½ªº«■»±\ufffd"]

def palmos : CodePage :=
  cp1252.variant "palmos" [] [(0x81, "\x81"), (0x8d, "♦♣♥♠"), (0x9b, "\x9bœ\x9d\x9e")]

def national : List CodePage := [koi8R, koi8T, koi8U, kz1048, ptcp154, cp1006, hpRoman8, palmos]

end TreeScript.CodePage
