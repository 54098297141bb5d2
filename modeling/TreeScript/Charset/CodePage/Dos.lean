import TreeScript.Charset.CodePage

/-! # Character sets of DOS

The character sets of DOS, one byte for each character.
-/

namespace TreeScript.CodePage

/-- Lines and blocks to draw boxes with. -/
def boxes : String := "└┴┬├─┼╞╟╚╔╩╦╠═╬╧╨╤╥╙╘╒╓╫╪┘┌█▄▌▐▀"

def mathematics : String := "αßΓπΣσµτΦΘΩδ∞φε∩≡±≥≤⌠⌡÷≈°∙·√ⁿ²■\xa0"

def cp437 : CodePage where
  name := "cp437"
  aliases := ["437", "cspc8codepage437", "ibm437"]
  start := 128
  rows := [
    "ÇüéâäàåçêëèïîìÄÅÉæÆôöòûùÿÖÜ¢£¥₧ƒ",
    "áíóúñÑªº¿⌐¬½¼¡«»░▒▓│┤╡╢╖╕╣║╗╝╜╛┐",
    boxes,
    mathematics]

def cp720 : CodePage where
  name := "cp720"
  aliases := []
  start := 130
  rows := [
    "éâ\x84à\x86çêëèïî\x8d\x8e\x8f\x90\u0651\u0652ô¤\u0640ûù\u0621\u0622\u0623\u0624£",
    letters 0x625 0x635, "«»░▒▓│┤╡╢╖╕╣║╗╝╜╛┐", boxes, letters 0x636 0x63a, "\u0641µ",
    letters 0x642 0x64a, "≡", letters 0x64b 0x650, "≈°∙·√ⁿ²■\xa0"]

def cp737 : CodePage where
  name := "cp737"
  aliases := []
  start := 128
  rows := [
    "ΑΒΓΔΕΖΗΘΙΚΛΜΝΞΟΠΡΣΤΥΦΧΨΩαβγδεζηθ",
    "ικλμνξοπρσςτυφχψ░▒▓│┤╡╢╖╕╣║╗╝╜╛┐",
    boxes,
    "ωάέήϊίόύϋώΆΈΉΊΌΎΏ±≥≤ΪΫ÷≈°∙·√ⁿ²■\xa0"]

def cp775 : CodePage where
  name := "cp775"
  aliases := ["775", "cspc775baltic", "ibm775"]
  start := 128
  rows := [
    "ĆüéāäģåćłēŖŗīŹÄÅÉæÆōöĢ¢ŚśÖÜø£Ø×¤",
    "ĀĪóŻżź”¦©®¬½¼Ł«»░▒▓│┤ĄČĘĖ╣║╗╝ĮŠ┐",
    "└┴┬├─┼ŲŪ╚╔╩╦╠═╬Žąčęėįšųūž┘┌█▄▌▐▀",
    "ÓßŌŃõÕµńĶķĻļņĒŅ’\xad±“¾¶§÷„°∙·¹³²■\xa0"]

def cp850 : CodePage where
  name := "cp850"
  aliases := ["850", "cspc850multilingual", "ibm850"]
  start := 128
  rows := [
    "ÇüéâäàåçêëèïîìÄÅÉæÆôöòûùÿÖÜø£Ø×ƒ",
    "áíóúñÑªº¿®¬½¼¡«»░▒▓│┤ÁÂÀ©╣║╗╝¢¥┐",
    "└┴┬├─┼ãÃ╚╔╩╦╠═╬¤ðÐÊËÈıÍÎÏ┘┌█▄¦Ì▀",
    "ÓßÔÒõÕµþÞÚÛÙýÝ¯´\xad±‗¾¶§÷¸°¨·¹³²■\xa0"]

def cp852 : CodePage where
  name := "cp852"
  aliases := ["852", "cspcp852", "ibm852"]
  start := 128
  rows := [
    "ÇüéâäůćçłëŐőîŹÄĆÉĹĺôöĽľŚśÖÜŤťŁ×č",
    "áíóúĄąŽžĘę¬źČş«»░▒▓│┤ÁÂĚŞ╣║╗╝Żż┐",
    "└┴┬├─┼Ăă╚╔╩╦╠═╬¤đĐĎËďŇÍÎě┘┌█▄ŢŮ▀",
    "ÓßÔŃńňŠšŔÚŕŰýÝţ´\xad˝˛ˇ˘§÷¸°¨˙űŘř■\xa0"]

def cp855 : CodePage where
  name := "cp855"
  aliases := ["855", "csibm855", "ibm855"]
  start := 128
  rows := [
    "ђЂѓЃёЁєЄѕЅіІїЇјЈљЉњЊћЋќЌўЎџЏюЮъЪ",
    "аАбБцЦдДеЕфФгГ«»░▒▓│┤хХиИ╣║╗╝йЙ┐",
    "└┴┬├─┼кК╚╔╩╦╠═╬¤лЛмМнНоОп┘┌█▄Пя▀",
    "ЯрРсСтТуУжЖвВьЬ№\xadыЫзЗшШэЭщЩчЧ§■\xa0"]

def cp856 : CodePage where
  name := "cp856"
  aliases := []
  start := 128
  rows := [
    letters 0x5d0 0x5ea, "\ufffd£\ufffd×", missing 10,
    "®¬½¼\ufffd«»░▒▓│┤\ufffd\ufffd\ufffd©╣║╗╝¢¥┐└┴┬├─┼\ufffd\ufffd╚", "╔╩╦╠═╬¤", missing 9,
    "┘┌█▄¦\ufffd▀", missing 6, "µ", missing 7, "¯´\xad±‗¾¶§÷¸°¨·¹³²■\xa0"]

def cp857 : CodePage :=
  cp850.variant "cp857" ["857", "csibm857", "ibm857"] [(0x8d, "ı"), (0x98, "İ"), (0x9e, "Şş"),
    (0xa6, "Ğğ"), (0xd0, "ºª"), (0xd5, "\ufffd"), (0xe7, "\ufffd×"), (0xec, "ìÿ"), (0xf2, "\ufffd")]

def cp858 : CodePage :=
  cp850.variant "cp858" ["858", "csibm858", "ibm858"] [(0xd5, "€")]

def cp860 : CodePage :=
  cp437.variant "cp860" ["860", "csibm860", "ibm860"] [(0x84, "ãàÁçêÊèÍÔìÃÂÉÀÈôõòÚùÌÕ"),
    (0x9d, "Ù₧Ó"), (0xa9, "Ò")]

def cp861 : CodePage :=
  cp437.variant "cp861" ["861", "cp_is", "csibm861", "ibm861"] [(0x8b, "ÐðÞ"), (0x95, "þûÝýÖÜø£Ø"),
    (0xa4, "ÁÍÓÚ")]

def cp862 : CodePage :=
  cp437.variant "cp862" ["862", "cspc862latinhebrew", "ibm862"] [(0x80, letters 0x5d0 0x5ea)]

def cp863 : CodePage :=
  cp437.variant "cp863" ["863", "csibm863", "ibm863"] [(0x84, "Âà¶"), (0x8d, "‗À§ÉÈÊôËÏûù¤Ô"),
    (0x9d, "ÙÛƒ¦´óú¨¸³¯Î"), (0xad, "¾")]

def cp864 : CodePage where
  name := "cp864"
  aliases := ["864", "csibm864", "ibm864"]
  start := 37
  rows := [
    "٪&\x27()*+,-./0123456789:;<=>?@ABCD", "EFGHIJKLMNOPQRSTUVWXYZ[\\]^_\x60abcd",
    "efghijklmnopqrstuvwxyz\x7b|\x7d~\x7f°·∙√▒",
    "─│┼┤┬├┴┐┌└┘β∞φ±½¼≈«»\ufef7\ufef8\ufffd\ufffd\ufefb\ufefc\ufffd\xa0\xad\ufe82£¤",
    "\ufe84\ufffd\ufffd\ufe8e\ufe8f\ufe95\ufe99،\ufe9d\ufea1\ufea5", letters 0x660 0x669,
    "\ufed1\u061b\ufeb1\ufeb5\ufeb9\u061f¢\ufe80\ufe81\ufe83\ufe85\ufeca\ufe8b\ufe8d\ufe91",
    "\ufe93\ufe97\ufe9b\ufe9f\ufea3\ufea7\ufea9\ufeab\ufead\ufeaf\ufeb3\ufeb7\ufebb\ufebf\ufec1",
    "\ufec5\ufecb\ufecf¦¬÷×\ufec9\u0640\ufed3\ufed7\ufedb\ufedf\ufee3\ufee7\ufeeb\ufeed\ufeef",
    "\ufef3\ufebd\ufecc\ufece\ufecd\ufee1\ufe7d\u0651\ufee5\ufee9\ufeec\ufef0\ufef2\ufed0\ufed5",
    "\ufef5\ufef6\ufedd\ufed9\ufef1■\ufffd"]

def cp865 : CodePage :=
  cp437.variant "cp865" ["865", "csibm865", "ibm865"] [(0x9b, "ø£Ø"), (0xaf, "¤")]

def cp866 : CodePage where
  name := "cp866"
  aliases := ["866", "csibm866", "ibm866"]
  start := 128
  rows := [
    "АБВГДЕЖЗИЙКЛМНОПРСТУФХЦЧШЩЪЫЬЭЮЯ",
    "абвгдежзийклмноп░▒▓│┤╡╢╖╕╣║╗╝╜╛┐",
    boxes,
    "рстуфхцчшщъыьэюяЁёЄєЇїЎў°∙·√№¤■\xa0"]

def cp869 : CodePage where
  name := "cp869"
  aliases := ["869", "cp_gr", "csibm869", "ibm869"]
  start := 128
  rows := [
    missing 6, "Ά\ufffd·¬¦‘’Έ―ΉΊΪΌ\ufffd\ufffdΎΫ©Ώ²³ά£έήίϊΐόύΑΒ",
    "ΓΔΕΖΗ½ΘΙ«»░▒▓│┤ΚΛΜΝ╣║╗╝ΞΟ┐└┴┬├─┼", "ΠΡ╚╔╩╦╠═╬ΣΤΥΦΧΨΩαβγ┘┌█▄δε▀ζηθικλ",
    "μνξοπρσςτ΄\xad±υφχ§ψ΅°¨ωϋΰώ■\xa0"]

def cp1125 : CodePage :=
  cp866.variant "cp1125" ["1125", "cp866u", "ibm1125", "ruscii"] [(0xf2, "ҐґЄєІіЇї")]

def dos : List CodePage := [cp437, cp720, cp737, cp775, cp850, cp852, cp855, cp856, cp857, cp858,
  cp860, cp861, cp862, cp863, cp864, cp865, cp866, cp869, cp1125]

end TreeScript.CodePage
