import TreeScript.Charset.CodePage.Iso

/-! # Character sets of Windows

The character sets of Windows, one byte for each character.
-/

namespace TreeScript.CodePage

def cp1250 : CodePage :=
  iso88592.variant "cp1250" ["1250", "windows_1250"] [
    (0x80, "€\ufffd‚\ufffd„…†‡\ufffd‰Š‹ŚŤŽŹ\ufffd‘’“”•–—\ufffd™š›śťžź\xa0ˇ"),
    (0xa5, "Ą¦§¨©Ş«¬\xad®Ż°±"), (0xb5, "µ¶·¸ąş»Ľ˝ľ")]

def cp1251 : CodePage where
  name := "cp1251"
  aliases := ["1251", "windows_1251"]
  start := 128
  rows := [
    "ЂЃ‚ѓ„…†‡€‰Љ‹ЊЌЋЏђ‘’“”•–—\ufffd™љ›њќћџ",
    "\xa0ЎўЈ¤Ґ¦§Ё©Є«¬\xad®Ї°±Ііґµ¶·ё№є»јЅѕї",
    "АБВГДЕЖЗИЙКЛМНОПРСТУФХЦЧШЩЪЫЬЭЮЯ",
    "абвгдежзийклмнопрстуфхцчшщъыьэюя"]

def cp1252 : CodePage :=
  latin1.variant "cp1252" ["1252", "windows_1252"] [
    (0x80, "€\ufffd‚ƒ„…†‡ˆ‰Š‹Œ\ufffdŽ\ufffd\ufffd‘’“”•–—˜™š›œ\ufffdžŸ")]

def cp1253 : CodePage where
  name := "cp1253"
  aliases := ["1253", "windows_1253"]
  start := 128
  rows := [
    "€\ufffd‚ƒ„…†‡\ufffd‰\ufffd‹", missing 5, "‘’“”•–—\ufffd™\ufffd›", missing 4,
    "\xa0΅Ά£¤¥¦§¨©\ufffd«¬\xad®―°±²³΄µ¶·ΈΉΊ»Ό½ΎΏ", "ΐΑΒΓΔΕΖΗΘΙΚΛΜΝΞΟΠΡ\ufffdΣΤΥΦΧΨΩΪΫάέήί",
    "ΰαβγδεζηθικλμνξοπρςστυφχψωϊϋόύώ\ufffd"]

def cp1254 : CodePage :=
  cp1252.variant "cp1254" ["1254", "windows_1254"] [(0x8e, "\ufffd"), (0x9e, "\ufffd"), (0xd0, "Ğ"),
    (0xdd, "İŞ"), (0xf0, "ğ"), (0xfd, "ış")]

def cp1255 : CodePage where
  name := "cp1255"
  aliases := ["1255", "windows_1255"]
  start := 128
  rows := [
    "€\ufffd‚ƒ„…†‡ˆ‰\ufffd‹", missing 5, "‘’“”•–—˜™\ufffd›", missing 4,
    "\xa0¡¢£₪¥¦§¨©×«¬\xad®¯°±²³´µ¶·¸¹÷»¼½¾¿", letters 0x5b0 0x5b9, "\ufffd", letters 0x5bb 0x5c3,
    letters 0x5f0 0x5f4, missing 7, letters 0x5d0 0x5ea, "\ufffd\ufffd\u200e\u200f\ufffd"]

def cp1256 : CodePage where
  name := "cp1256"
  aliases := ["1256", "windows_1256"]
  start := 128
  rows := [
    "€\u067e‚ƒ„…†‡ˆ‰\u0679‹Œ\u0686\u0698\u0688\u06af‘’“”•–—\u06a9™\u0691›œ\u200c\u200d\u06ba",
    "\xa0،¢£¤¥¦§¨©\u06be«¬\xad®¯°±²³´µ¶·¸¹\u061b»¼½¾\u061f", "\u06c1", letters 0x621 0x636,
    "×\u0637\u0638\u0639\u063a\u0640\u0641\u0642\u0643à\u0644â\u0645\u0646\u0647\u0648çèéêë",
    "\u0649\u064aîï\u064b\u064c\u064d\u064eô\u064f\u0650÷\u0651ù\u0652ûü\u200e\u200f\u06d2"]

def cp1257 : CodePage where
  name := "cp1257"
  aliases := ["1257", "windows_1257"]
  start := 128
  rows := [
    "€\ufffd‚\ufffd„…†‡\ufffd‰\ufffd‹\ufffd¨ˇ¸\ufffd‘’“”•–—\ufffd™\ufffd›\ufffd¯˛\ufffd",
    "\xa0\ufffd¢£¤\ufffd¦§Ø©Ŗ«¬\xad®Æ°±²³´µ¶·ø¹ŗ»¼½¾æ",
    "ĄĮĀĆÄÅĘĒČÉŹĖĢĶĪĻŠŃŅÓŌÕÖ×ŲŁŚŪÜŻŽß",
    "ąįāćäåęēčéźėģķīļšńņóōõö÷ųłśūüżž˙"]

def cp1258 : CodePage :=
  cp1252.variant "cp1258" ["1258", "windows_1258"] [(0x8a, "\ufffd"), (0x8e, "\ufffd"),
    (0x9a, "\ufffd"), (0x9e, "\ufffd"), (0xc3, "Ă"), (0xcc, "\u0300"), (0xd0, "ĐÑ\u0309ÓÔƠ"),
    (0xdd, "Ư\u0303"), (0xe3, "ă"), (0xec, "\u0301"), (0xf0, "đñ\u0323óôơ"), (0xfd, "ư₫")]

def cp874 : CodePage :=
  iso885911.variant "cp874" [] [(0x80, "€"), (0x81, missing 4), (0x85, "…"), (0x86, missing 11),
    (0x91, "‘’“”•–—"), (0x98, missing 8)]

def windows : List CodePage := [cp1250, cp1251, cp1252, cp1253, cp1254, cp1255, cp1256, cp1257,
  cp1258, cp874]

end TreeScript.CodePage
