import JuceBuild.Text.Split

/-!
# Code pages

A code page gives a character to each octet. The lower half is that of ASCII, up to octets that a
page leaves without a meaning; the upper half is written out in eight rows of sixteen characters,
with the replacement character where an octet has no meaning. Rows that are left out have none.
-/

namespace JuceBuild.Xml

/-- A code page: the names it is registered under, more names it is known by, the octets of the
lower half that have no meaning, and the rows of the upper half. -/
structure CodePage where
  names : List String
  aliases : List String
  holes : List UInt8
  rows : List String
  deriving DecidableEq, Repr

namespace CodePage

/-- The character of an octet. -/
def char? (page : CodePage) (octet : UInt8) : Option Char :=
  if octet < 0x80 then
    if octet ∈ page.holes then none else some (Char.ofNat octet.toNat)
  else
    let index := octet.toNat - 0x80
    match page.rows[index / 16]? with
    | none => none
    | some row => row.toList[index % 16]?.filter (· ≠ '\ufffd')

/-- The page `ascii`. -/
def ascii : CodePage :=
  ⟨["ascii", "iso2022_jp", "iso2022_jp_1", "iso2022_jp_2", "iso2022_jp_2004", "iso2022_jp_3",
   "iso2022_jp_ext", "utf_8", "utf_8_sig"],
   ["ansi_x3.4_1968", "ansi_x3.4_1986", "ansi_x3_4_1968", "cp367", "cp65001", "csascii",
   "csiso2022jp", "ibm367", "iso2022jp", "iso2022jp_1", "iso2022jp_2", "iso2022jp_2004",
   "iso2022jp_3", "iso2022jp_ext", "iso646_us", "iso_2022_jp", "iso_2022_jp_1", "iso_2022_jp_2",
   "iso_2022_jp_2004", "iso_2022_jp_3", "iso_2022_jp_ext", "iso_646.irv_1991", "iso_ir_6", "u8",
   "us", "us_ascii", "utf", "utf8", "utf8_ucs2", "utf8_ucs4"],
   [],
   []⟩

/-- The page `cp437`. -/
def cp437 : CodePage :=
  ⟨["cp437"],
   ["cspc8codepage437", "ibm437"],
   [],
   [
 "ÇüéâäàåçêëèïîìÄÅ",
 "ÉæÆôöòûùÿÖÜ¢£¥₧ƒ",
 "áíóúñÑªº¿⌐¬½¼¡«»",
 "░▒▓│┤╡╢╖╕╣║╗╝╜╛┐",
 "└┴┬├─┼╞╟╚╔╩╦╠═╬╧",
 "╨╤╥╙╘╒╓╫╪┘┌█▄▌▐▀",
 "αßΓπΣσµτΦΘΩδ∞φε∩",
 "≡±≥≤⌠⌡÷≈°∙·√ⁿ²■\xa0"]⟩

/-- The page `cp720`. -/
def cp720 : CodePage :=
  ⟨["cp720"],
   [],
   [],
   [
 "\x80\x81éâ\x84à\x86çêëèïî\x8d\x8e\x8f",
 "\x90\u0651\u0652ô¤\u0640ûù\u0621\u0622\u0623\u0624£\u0625\u0626\u0627",
 "\u0628\u0629\u062a\u062b\u062c\u062d\u062e\u062f\u0630\u0631\u0632\u0633\u0634\u0635«»",
 "░▒▓│┤╡╢╖╕╣║╗╝╜╛┐",
 "└┴┬├─┼╞╟╚╔╩╦╠═╬╧",
 "╨╤╥╙╘╒╓╫╪┘┌█▄▌▐▀",
 "\u0636\u0637\u0638\u0639\u063a\u0641µ\u0642\u0643\u0644\u0645\u0646\u0647\u0648\u0649\u064a",
 "≡\u064b\u064c\u064d\u064e\u064f\u0650≈°∙·√ⁿ²■\xa0"]⟩

/-- The page `cp737`. -/
def cp737 : CodePage :=
  ⟨["cp737"],
   [],
   [],
   [
 "ΑΒΓΔΕΖΗΘΙΚΛΜΝΞΟΠ",
 "ΡΣΤΥΦΧΨΩαβγδεζηθ",
 "ικλμνξοπρσςτυφχψ",
 "░▒▓│┤╡╢╖╕╣║╗╝╜╛┐",
 "└┴┬├─┼╞╟╚╔╩╦╠═╬╧",
 "╨╤╥╙╘╒╓╫╪┘┌█▄▌▐▀",
 "ωάέήϊίόύϋώΆΈΉΊΌΎ",
 "Ώ±≥≤ΪΫ÷≈°∙·√ⁿ²■\xa0"]⟩

/-- The page `cp775`. -/
def cp775 : CodePage :=
  ⟨["cp775"],
   ["cspc775baltic", "ibm775"],
   [],
   [
 "ĆüéāäģåćłēŖŗīŹÄÅ",
 "ÉæÆōöĢ¢ŚśÖÜø£Ø×¤",
 "ĀĪóŻżź”¦©®¬½¼Ł«»",
 "░▒▓│┤ĄČĘĖ╣║╗╝ĮŠ┐",
 "└┴┬├─┼ŲŪ╚╔╩╦╠═╬Ž",
 "ąčęėįšųūž┘┌█▄▌▐▀",
 "ÓßŌŃõÕµńĶķĻļņĒŅ’",
 "\xad±“¾¶§÷„°∙·¹³²■\xa0"]⟩

/-- The page `cp850`. -/
def cp850 : CodePage :=
  ⟨["cp850"],
   ["cspc850multilingual", "ibm850"],
   [],
   [
 "ÇüéâäàåçêëèïîìÄÅ",
 "ÉæÆôöòûùÿÖÜø£Ø×ƒ",
 "áíóúñÑªº¿®¬½¼¡«»",
 "░▒▓│┤ÁÂÀ©╣║╗╝¢¥┐",
 "└┴┬├─┼ãÃ╚╔╩╦╠═╬¤",
 "ðÐÊËÈıÍÎÏ┘┌█▄¦Ì▀",
 "ÓßÔÒõÕµþÞÚÛÙýÝ¯´",
 "\xad±‗¾¶§÷¸°¨·¹³²■\xa0"]⟩

/-- The page `cp852`. -/
def cp852 : CodePage :=
  ⟨["cp852"],
   ["cspcp852", "ibm852"],
   [],
   [
 "ÇüéâäůćçłëŐőîŹÄĆ",
 "ÉĹĺôöĽľŚśÖÜŤťŁ×č",
 "áíóúĄąŽžĘę¬źČş«»",
 "░▒▓│┤ÁÂĚŞ╣║╗╝Żż┐",
 "└┴┬├─┼Ăă╚╔╩╦╠═╬¤",
 "đĐĎËďŇÍÎě┘┌█▄ŢŮ▀",
 "ÓßÔŃńňŠšŔÚŕŰýÝţ´",
 "\xad˝˛ˇ˘§÷¸°¨˙űŘř■\xa0"]⟩

/-- The page `cp855`. -/
def cp855 : CodePage :=
  ⟨["cp855"],
   ["csibm855", "ibm855"],
   [],
   [
 "ђЂѓЃёЁєЄѕЅіІїЇјЈ",
 "љЉњЊћЋќЌўЎџЏюЮъЪ",
 "аАбБцЦдДеЕфФгГ«»",
 "░▒▓│┤хХиИ╣║╗╝йЙ┐",
 "└┴┬├─┼кК╚╔╩╦╠═╬¤",
 "лЛмМнНоОп┘┌█▄Пя▀",
 "ЯрРсСтТуУжЖвВьЬ№",
 "\xadыЫзЗшШэЭщЩчЧ§■\xa0"]⟩

/-- The page `cp856`. -/
def cp856 : CodePage :=
  ⟨["cp856"],
   [],
   [],
   [
 "\u05d0\u05d1\u05d2\u05d3\u05d4\u05d5\u05d6\u05d7\u05d8\u05d9\u05da\u05db\u05dc\u05dd\u05de\u05df",
 "\u05e0\u05e1\u05e2\u05e3\u05e4\u05e5\u05e6\u05e7\u05e8\u05e9\u05ea\ufffd£\ufffd×\ufffd",
 "\ufffd\ufffd\ufffd\ufffd\ufffd\ufffd\ufffd\ufffd\ufffd®¬½¼\ufffd«»",
 "░▒▓│┤\ufffd\ufffd\ufffd©╣║╗╝¢¥┐",
 "└┴┬├─┼\ufffd\ufffd╚╔╩╦╠═╬¤",
 "\ufffd\ufffd\ufffd\ufffd\ufffd\ufffd\ufffd\ufffd\ufffd┘┌█▄¦\ufffd▀",
 "\ufffd\ufffd\ufffd\ufffd\ufffd\ufffdµ\ufffd\ufffd\ufffd\ufffd\ufffd\ufffd\ufffd¯´",
 "\xad±‗¾¶§÷¸°¨·¹³²■\xa0"]⟩

/-- The page `cp857`. -/
def cp857 : CodePage :=
  ⟨["cp857"],
   ["csibm857", "ibm857"],
   [],
   [
 "ÇüéâäàåçêëèïîıÄÅ",
 "ÉæÆôöòûùİÖÜø£ØŞş",
 "áíóúñÑĞğ¿®¬½¼¡«»",
 "░▒▓│┤ÁÂÀ©╣║╗╝¢¥┐",
 "└┴┬├─┼ãÃ╚╔╩╦╠═╬¤",
 "ºªÊËÈ\ufffdÍÎÏ┘┌█▄¦Ì▀",
 "ÓßÔÒõÕµ\ufffd×ÚÛÙìÿ¯´",
 "\xad±\ufffd¾¶§÷¸°¨·¹³²■\xa0"]⟩

/-- The page `cp858`. -/
def cp858 : CodePage :=
  ⟨["cp858"],
   ["csibm858", "ibm858"],
   [],
   [
 "ÇüéâäàåçêëèïîìÄÅ",
 "ÉæÆôöòûùÿÖÜø£Ø×ƒ",
 "áíóúñÑªº¿®¬½¼¡«»",
 "░▒▓│┤ÁÂÀ©╣║╗╝¢¥┐",
 "└┴┬├─┼ãÃ╚╔╩╦╠═╬¤",
 "ðÐÊËÈ€ÍÎÏ┘┌█▄¦Ì▀",
 "ÓßÔÒõÕµþÞÚÛÙýÝ¯´",
 "\xad±‗¾¶§÷¸°¨·¹³²■\xa0"]⟩

/-- The page `cp860`. -/
def cp860 : CodePage :=
  ⟨["cp860"],
   ["csibm860", "ibm860"],
   [],
   [
 "ÇüéâãàÁçêÊèÍÔìÃÂ",
 "ÉÀÈôõòÚùÌÕÜ¢£Ù₧Ó",
 "áíóúñÑªº¿Ò¬½¼¡«»",
 "░▒▓│┤╡╢╖╕╣║╗╝╜╛┐",
 "└┴┬├─┼╞╟╚╔╩╦╠═╬╧",
 "╨╤╥╙╘╒╓╫╪┘┌█▄▌▐▀",
 "αßΓπΣσµτΦΘΩδ∞φε∩",
 "≡±≥≤⌠⌡÷≈°∙·√ⁿ²■\xa0"]⟩

/-- The page `cp861`. -/
def cp861 : CodePage :=
  ⟨["cp861"],
   ["cp_is", "csibm861", "ibm861"],
   [],
   [
 "ÇüéâäàåçêëèÐðÞÄÅ",
 "ÉæÆôöþûÝýÖÜø£Ø₧ƒ",
 "áíóúÁÍÓÚ¿⌐¬½¼¡«»",
 "░▒▓│┤╡╢╖╕╣║╗╝╜╛┐",
 "└┴┬├─┼╞╟╚╔╩╦╠═╬╧",
 "╨╤╥╙╘╒╓╫╪┘┌█▄▌▐▀",
 "αßΓπΣσµτΦΘΩδ∞φε∩",
 "≡±≥≤⌠⌡÷≈°∙·√ⁿ²■\xa0"]⟩

/-- The page `cp862`. -/
def cp862 : CodePage :=
  ⟨["cp862"],
   ["cspc862latinhebrew", "ibm862"],
   [],
   [
 "\u05d0\u05d1\u05d2\u05d3\u05d4\u05d5\u05d6\u05d7\u05d8\u05d9\u05da\u05db\u05dc\u05dd\u05de\u05df",
 "\u05e0\u05e1\u05e2\u05e3\u05e4\u05e5\u05e6\u05e7\u05e8\u05e9\u05ea¢£¥₧ƒ",
 "áíóúñÑªº¿⌐¬½¼¡«»",
 "░▒▓│┤╡╢╖╕╣║╗╝╜╛┐",
 "└┴┬├─┼╞╟╚╔╩╦╠═╬╧",
 "╨╤╥╙╘╒╓╫╪┘┌█▄▌▐▀",
 "αßΓπΣσµτΦΘΩδ∞φε∩",
 "≡±≥≤⌠⌡÷≈°∙·√ⁿ²■\xa0"]⟩

/-- The page `cp863`. -/
def cp863 : CodePage :=
  ⟨["cp863"],
   ["csibm863", "ibm863"],
   [],
   [
 "ÇüéâÂà¶çêëèïî‗À§",
 "ÉÈÊôËÏûù¤ÔÜ¢£ÙÛƒ",
 "¦´óú¨¸³¯Î⌐¬½¼¾«»",
 "░▒▓│┤╡╢╖╕╣║╗╝╜╛┐",
 "└┴┬├─┼╞╟╚╔╩╦╠═╬╧",
 "╨╤╥╙╘╒╓╫╪┘┌█▄▌▐▀",
 "αßΓπΣσµτΦΘΩδ∞φε∩",
 "≡±≥≤⌠⌡÷≈°∙·√ⁿ²■\xa0"]⟩

/-- The page `cp865`. -/
def cp865 : CodePage :=
  ⟨["cp865"],
   ["csibm865", "ibm865"],
   [],
   [
 "ÇüéâäàåçêëèïîìÄÅ",
 "ÉæÆôöòûùÿÖÜø£Ø₧ƒ",
 "áíóúñÑªº¿⌐¬½¼¡«¤",
 "░▒▓│┤╡╢╖╕╣║╗╝╜╛┐",
 "└┴┬├─┼╞╟╚╔╩╦╠═╬╧",
 "╨╤╥╙╘╒╓╫╪┘┌█▄▌▐▀",
 "αßΓπΣσµτΦΘΩδ∞φε∩",
 "≡±≥≤⌠⌡÷≈°∙·√ⁿ²■\xa0"]⟩

/-- The page `cp866`. -/
def cp866 : CodePage :=
  ⟨["cp866"],
   ["csibm866", "ibm866"],
   [],
   [
 "АБВГДЕЖЗИЙКЛМНОП",
 "РСТУФХЦЧШЩЪЫЬЭЮЯ",
 "абвгдежзийклмноп",
 "░▒▓│┤╡╢╖╕╣║╗╝╜╛┐",
 "└┴┬├─┼╞╟╚╔╩╦╠═╬╧",
 "╨╤╥╙╘╒╓╫╪┘┌█▄▌▐▀",
 "рстуфхцчшщъыьэюя",
 "ЁёЄєЇїЎў°∙·√№¤■\xa0"]⟩

/-- The page `cp869`. -/
def cp869 : CodePage :=
  ⟨["cp869"],
   ["cp_gr", "csibm869", "ibm869"],
   [],
   [
 "\ufffd\ufffd\ufffd\ufffd\ufffd\ufffdΆ\ufffd·¬¦‘’Έ―Ή",
 "ΊΪΌ\ufffd\ufffdΎΫ©Ώ²³ά£έήί",
 "ϊΐόύΑΒΓΔΕΖΗ½ΘΙ«»",
 "░▒▓│┤ΚΛΜΝ╣║╗╝ΞΟ┐",
 "└┴┬├─┼ΠΡ╚╔╩╦╠═╬Σ",
 "ΤΥΦΧΨΩαβγ┘┌█▄δε▀",
 "ζηθικλμνξοπρσςτ΄",
 "\xad±υφχ§ψ΅°¨ωϋΰώ■\xa0"]⟩

/-- The page `cp874`. -/
def cp874 : CodePage :=
  ⟨["cp874"],
   [],
   [],
   [
 "€\ufffd\ufffd\ufffd\ufffd…\ufffd\ufffd\ufffd\ufffd\ufffd\ufffd\ufffd\ufffd\ufffd\ufffd",
 "\ufffd‘’“”•–—\ufffd\ufffd\ufffd\ufffd\ufffd\ufffd\ufffd\ufffd",
 "\xa0กขฃคฅฆงจฉชซฌญฎฏ",
 "ฐฑฒณดตถทธนบปผฝพฟ",
 "ภมยรฤลฦวศษสหฬอฮฯ",
 "ะ\u0e31าำ\u0e34\u0e35\u0e36\u0e37\u0e38\u0e39\u0e3a\ufffd\ufffd\ufffd\ufffd฿",
 "เแโใไๅๆ\u0e47\u0e48\u0e49\u0e4a\u0e4b\u0e4c\u0e4d\u0e4e๏",
 "๐๑๒๓๔๕๖๗๘๙๚๛\ufffd\ufffd\ufffd\ufffd"]⟩

/-- The page `cp1006`. -/
def cp1006 : CodePage :=
  ⟨["cp1006"],
   [],
   [],
   [
 "\x80\x81\x82\x83\x84\x85\x86\x87\x88\x89\x8a\x8b\x8c\x8d\x8e\x8f",
 "\x90\x91\x92\x93\x94\x95\x96\x97\x98\x99\x9a\x9b\x9c\x9d\x9e\x9f",
 "\xa0۰۱۲۳۴۵۶۷۸۹،\u061b\xad\u061f\ufe81",
 "\ufe8d\ufe8e\ufe8e\ufe8f\ufe91\ufb56\ufb58\ufe93\ufe95\ufe97\ufb66\ufb68\ufe99\ufe9b\ufe9d\ufe9f",
 "\ufb7a\ufb7c\ufea1\ufea3\ufea5\ufea7\ufea9\ufb84\ufeab\ufead\ufb8c\ufeaf\ufb8a\ufeb1\ufeb3\ufeb5",
 "\ufeb7\ufeb9\ufebb\ufebd\ufebf\ufec1\ufec5\ufec9\ufeca\ufecb\ufecc\ufecd\ufece\ufecf\ufed0\ufed1",
 "\ufed3\ufed5\ufed7\ufed9\ufedb\ufb92\ufb94\ufedd\ufedf\ufee0\ufee1\ufee3\ufb9e\ufee5\ufee7\ufe85",
 "\ufeed\ufba6\ufba8\ufba9\ufbaa\ufe80\ufe89\ufe8a\ufe8b\ufef1\ufef2\ufef3\ufbb0\ufbae\ufe7c\ufe7d"
 ]⟩

/-- The page `cp1125`. -/
def cp1125 : CodePage :=
  ⟨["cp1125"],
   ["cp866u", "ibm1125", "ruscii"],
   [],
   [
 "АБВГДЕЖЗИЙКЛМНОП",
 "РСТУФХЦЧШЩЪЫЬЭЮЯ",
 "абвгдежзийклмноп",
 "░▒▓│┤╡╢╖╕╣║╗╝╜╛┐",
 "└┴┬├─┼╞╟╚╔╩╦╠═╬╧",
 "╨╤╥╙╘╒╓╫╪┘┌█▄▌▐▀",
 "рстуфхцчшщъыьэюя",
 "ЁёҐґЄєІіЇї·√№¤■\xa0"]⟩

/-- The page `cp1250`. -/
def cp1250 : CodePage :=
  ⟨["cp1250"],
   ["windows_1250"],
   [],
   [
 "€\ufffd‚\ufffd„…†‡\ufffd‰Š‹ŚŤŽŹ",
 "\ufffd‘’“”•–—\ufffd™š›śťžź",
 "\xa0ˇ˘Ł¤Ą¦§¨©Ş«¬\xad®Ż",
 "°±˛ł´µ¶·¸ąş»Ľ˝ľż",
 "ŔÁÂĂÄĹĆÇČÉĘËĚÍÎĎ",
 "ĐŃŇÓÔŐÖ×ŘŮÚŰÜÝŢß",
 "ŕáâăäĺćçčéęëěíîď",
 "đńňóôőö÷řůúűüýţ˙"]⟩

/-- The page `cp1251`. -/
def cp1251 : CodePage :=
  ⟨["cp1251"],
   ["windows_1251"],
   [],
   [
 "ЂЃ‚ѓ„…†‡€‰Љ‹ЊЌЋЏ",
 "ђ‘’“”•–—\ufffd™љ›њќћџ",
 "\xa0ЎўЈ¤Ґ¦§Ё©Є«¬\xad®Ї",
 "°±Ііґµ¶·ё№є»јЅѕї",
 "АБВГДЕЖЗИЙКЛМНОП",
 "РСТУФХЦЧШЩЪЫЬЭЮЯ",
 "абвгдежзийклмноп",
 "рстуфхцчшщъыьэюя"]⟩

/-- The page `cp1252`. -/
def cp1252 : CodePage :=
  ⟨["cp1252"],
   ["windows_1252"],
   [],
   [
 "€\ufffd‚ƒ„…†‡ˆ‰Š‹Œ\ufffdŽ\ufffd",
 "\ufffd‘’“”•–—˜™š›œ\ufffdžŸ",
 "\xa0¡¢£¤¥¦§¨©ª«¬\xad®¯",
 "°±²³´µ¶·¸¹º»¼½¾¿",
 "ÀÁÂÃÄÅÆÇÈÉÊËÌÍÎÏ",
 "ÐÑÒÓÔÕÖ×ØÙÚÛÜÝÞß",
 "àáâãäåæçèéêëìíîï",
 "ðñòóôõö÷øùúûüýþÿ"]⟩

/-- The page `cp1253`. -/
def cp1253 : CodePage :=
  ⟨["cp1253"],
   ["windows_1253"],
   [],
   [
 "€\ufffd‚ƒ„…†‡\ufffd‰\ufffd‹\ufffd\ufffd\ufffd\ufffd",
 "\ufffd‘’“”•–—\ufffd™\ufffd›\ufffd\ufffd\ufffd\ufffd",
 "\xa0΅Ά£¤¥¦§¨©\ufffd«¬\xad®―",
 "°±²³΄µ¶·ΈΉΊ»Ό½ΎΏ",
 "ΐΑΒΓΔΕΖΗΘΙΚΛΜΝΞΟ",
 "ΠΡ\ufffdΣΤΥΦΧΨΩΪΫάέήί",
 "ΰαβγδεζηθικλμνξο",
 "πρςστυφχψωϊϋόύώ\ufffd"]⟩

/-- The page `cp1254`. -/
def cp1254 : CodePage :=
  ⟨["cp1254"],
   ["windows_1254"],
   [],
   [
 "€\ufffd‚ƒ„…†‡ˆ‰Š‹Œ\ufffd\ufffd\ufffd",
 "\ufffd‘’“”•–—˜™š›œ\ufffd\ufffdŸ",
 "\xa0¡¢£¤¥¦§¨©ª«¬\xad®¯",
 "°±²³´µ¶·¸¹º»¼½¾¿",
 "ÀÁÂÃÄÅÆÇÈÉÊËÌÍÎÏ",
 "ĞÑÒÓÔÕÖ×ØÙÚÛÜİŞß",
 "àáâãäåæçèéêëìíîï",
 "ğñòóôõö÷øùúûüışÿ"]⟩

/-- The page `cp1255`. -/
def cp1255 : CodePage :=
  ⟨["cp1255"],
   ["windows_1255"],
   [],
   [
 "€\ufffd‚ƒ„…†‡ˆ‰\ufffd‹\ufffd\ufffd\ufffd\ufffd",
 "\ufffd‘’“”•–—˜™\ufffd›\ufffd\ufffd\ufffd\ufffd",
 "\xa0¡¢£₪¥¦§¨©×«¬\xad®¯",
 "°±²³´µ¶·¸¹÷»¼½¾¿",
 "\u05b0\u05b1\u05b2\u05b3\u05b4\u05b5\u05b6\u05b7\u05b8\u05b9\ufffd\u05bb\u05bc\u05bd\u05be\u05bf",
 "\u05c0\u05c1\u05c2\u05c3\u05f0\u05f1\u05f2\u05f3\u05f4\ufffd\ufffd\ufffd\ufffd\ufffd\ufffd\ufffd",
 "\u05d0\u05d1\u05d2\u05d3\u05d4\u05d5\u05d6\u05d7\u05d8\u05d9\u05da\u05db\u05dc\u05dd\u05de\u05df",
 "\u05e0\u05e1\u05e2\u05e3\u05e4\u05e5\u05e6\u05e7\u05e8\u05e9\u05ea\ufffd\ufffd\u200e\u200f\ufffd"
 ]⟩

/-- The page `cp1256`. -/
def cp1256 : CodePage :=
  ⟨["cp1256"],
   ["windows_1256"],
   [],
   [
 "€\u067e‚ƒ„…†‡ˆ‰\u0679‹Œ\u0686\u0698\u0688",
 "\u06af‘’“”•–—\u06a9™\u0691›œ\u200c\u200d\u06ba",
 "\xa0،¢£¤¥¦§¨©\u06be«¬\xad®¯",
 "°±²³´µ¶·¸¹\u061b»¼½¾\u061f",
 "\u06c1\u0621\u0622\u0623\u0624\u0625\u0626\u0627\u0628\u0629\u062a\u062b\u062c\u062d\u062e\u062f",
 "\u0630\u0631\u0632\u0633\u0634\u0635\u0636×\u0637\u0638\u0639\u063a\u0640\u0641\u0642\u0643",
 "à\u0644â\u0645\u0646\u0647\u0648çèéêë\u0649\u064aîï",
 "\u064b\u064c\u064d\u064eô\u064f\u0650÷\u0651ù\u0652ûü\u200e\u200f\u06d2"]⟩

/-- The page `cp1257`. -/
def cp1257 : CodePage :=
  ⟨["cp1257"],
   ["windows_1257"],
   [],
   [
 "€\ufffd‚\ufffd„…†‡\ufffd‰\ufffd‹\ufffd¨ˇ¸",
 "\ufffd‘’“”•–—\ufffd™\ufffd›\ufffd¯˛\ufffd",
 "\xa0\ufffd¢£¤\ufffd¦§Ø©Ŗ«¬\xad®Æ",
 "°±²³´µ¶·ø¹ŗ»¼½¾æ",
 "ĄĮĀĆÄÅĘĒČÉŹĖĢĶĪĻ",
 "ŠŃŅÓŌÕÖ×ŲŁŚŪÜŻŽß",
 "ąįāćäåęēčéźėģķīļ",
 "šńņóōõö÷ųłśūüżž˙"]⟩

/-- The page `cp1258`. -/
def cp1258 : CodePage :=
  ⟨["cp1258"],
   ["windows_1258"],
   [],
   [
 "€\ufffd‚ƒ„…†‡ˆ‰\ufffd‹Œ\ufffd\ufffd\ufffd",
 "\ufffd‘’“”•–—˜™\ufffd›œ\ufffd\ufffdŸ",
 "\xa0¡¢£¤¥¦§¨©ª«¬\xad®¯",
 "°±²³´µ¶·¸¹º»¼½¾¿",
 "ÀÁÂĂÄÅÆÇÈÉÊË\u0300ÍÎÏ",
 "ĐÑ\u0309ÓÔƠÖ×ØÙÚÛÜƯ\u0303ß",
 "àáâăäåæçèéêë\u0301íîï",
 "đñ\u0323óôơö÷øùúûüư₫ÿ"]⟩

/-- The page `hp_roman8`. -/
def hpRoman8 : CodePage :=
  ⟨["hp_roman8"],
   ["cp1051", "ibm1051", "r8", "roman8"],
   [],
   [
 "\x80\x81\x82\x83\x84\x85\x86\x87\x88\x89\x8a\x8b\x8c\x8d\x8e\x8f",
 "\x90\x91\x92\x93\x94\x95\x96\x97\x98\x99\x9a\x9b\x9c\x9d\x9e\x9f",
 "\xa0ÀÂÈÊËÎÏ´ˋˆ¨˜ÙÛ₤",
 "¯Ýý°ÇçÑñ¡¿¤£¥§ƒ¢",
 "âêôûáéóúàèòùäëöü",
 "ÅîØÆåíøæÄìÖÜÉïßÔ",
 "ÁÃãÐðÍÌÓÒÕõŠšÚŸÿ",
 "Þþ·µ¶¾—¼½ªº«■»±\ufffd"]⟩

/-- The page `hz`. -/
def hz : CodePage :=
  ⟨["hz"],
   ["hz_gb", "hz_gb_2312", "hzgb"],
   [0x7E],
   []⟩

/-- The page `iso8859_1`. -/
def iso88591 : CodePage :=
  ⟨["iso8859_1", "charmap", "latin_1", "raw_unicode_escape", "unicode_escape"],
   ["cp819", "csisolatin1", "ibm819", "iso8859", "iso8859_1", "iso_8859_1", "iso_8859_1_1987",
   "iso_ir_100", "l1", "latin", "latin1"],
   [],
   [
 "\x80\x81\x82\x83\x84\x85\x86\x87\x88\x89\x8a\x8b\x8c\x8d\x8e\x8f",
 "\x90\x91\x92\x93\x94\x95\x96\x97\x98\x99\x9a\x9b\x9c\x9d\x9e\x9f",
 "\xa0¡¢£¤¥¦§¨©ª«¬\xad®¯",
 "°±²³´µ¶·¸¹º»¼½¾¿",
 "ÀÁÂÃÄÅÆÇÈÉÊËÌÍÎÏ",
 "ÐÑÒÓÔÕÖ×ØÙÚÛÜÝÞß",
 "àáâãäåæçèéêëìíîï",
 "ðñòóôõö÷øùúûüýþÿ"]⟩

/-- The page `iso8859_2`. -/
def iso88592 : CodePage :=
  ⟨["iso8859_2"],
   ["csisolatin2", "iso_8859_2", "iso_8859_2_1987", "iso_ir_101", "l2", "latin2"],
   [],
   [
 "\x80\x81\x82\x83\x84\x85\x86\x87\x88\x89\x8a\x8b\x8c\x8d\x8e\x8f",
 "\x90\x91\x92\x93\x94\x95\x96\x97\x98\x99\x9a\x9b\x9c\x9d\x9e\x9f",
 "\xa0Ą˘Ł¤ĽŚ§¨ŠŞŤŹ\xadŽŻ",
 "°ą˛ł´ľśˇ¸šşťź˝žż",
 "ŔÁÂĂÄĹĆÇČÉĘËĚÍÎĎ",
 "ĐŃŇÓÔŐÖ×ŘŮÚŰÜÝŢß",
 "ŕáâăäĺćçčéęëěíîď",
 "đńňóôőö÷řůúűüýţ˙"]⟩

/-- The page `iso8859_3`. -/
def iso88593 : CodePage :=
  ⟨["iso8859_3"],
   ["csisolatin3", "iso_8859_3", "iso_8859_3_1988", "iso_ir_109", "l3", "latin3"],
   [],
   [
 "\x80\x81\x82\x83\x84\x85\x86\x87\x88\x89\x8a\x8b\x8c\x8d\x8e\x8f",
 "\x90\x91\x92\x93\x94\x95\x96\x97\x98\x99\x9a\x9b\x9c\x9d\x9e\x9f",
 "\xa0Ħ˘£¤\ufffdĤ§¨İŞĞĴ\xad\ufffdŻ",
 "°ħ²³´µĥ·¸ışğĵ½\ufffdż",
 "ÀÁÂ\ufffdÄĊĈÇÈÉÊËÌÍÎÏ",
 "\ufffdÑÒÓÔĠÖ×ĜÙÚÛÜŬŜß",
 "àáâ\ufffdäċĉçèéêëìíîï",
 "\ufffdñòóôġö÷ĝùúûüŭŝ˙"]⟩

/-- The page `iso8859_4`. -/
def iso88594 : CodePage :=
  ⟨["iso8859_4"],
   ["csisolatin4", "iso_8859_4", "iso_8859_4_1988", "iso_ir_110", "l4", "latin4"],
   [],
   [
 "\x80\x81\x82\x83\x84\x85\x86\x87\x88\x89\x8a\x8b\x8c\x8d\x8e\x8f",
 "\x90\x91\x92\x93\x94\x95\x96\x97\x98\x99\x9a\x9b\x9c\x9d\x9e\x9f",
 "\xa0ĄĸŖ¤ĨĻ§¨ŠĒĢŦ\xadŽ¯",
 "°ą˛ŗ´ĩļˇ¸šēģŧŊžŋ",
 "ĀÁÂÃÄÅÆĮČÉĘËĖÍÎĪ",
 "ĐŅŌĶÔÕÖ×ØŲÚÛÜŨŪß",
 "āáâãäåæįčéęëėíîī",
 "đņōķôõö÷øųúûüũū˙"]⟩

/-- The page `iso8859_5`. -/
def iso88595 : CodePage :=
  ⟨["iso8859_5"],
   ["csisolatincyrillic", "cyrillic", "iso_8859_5", "iso_8859_5_1988", "iso_ir_144"],
   [],
   [
 "\x80\x81\x82\x83\x84\x85\x86\x87\x88\x89\x8a\x8b\x8c\x8d\x8e\x8f",
 "\x90\x91\x92\x93\x94\x95\x96\x97\x98\x99\x9a\x9b\x9c\x9d\x9e\x9f",
 "\xa0ЁЂЃЄЅІЇЈЉЊЋЌ\xadЎЏ",
 "АБВГДЕЖЗИЙКЛМНОП",
 "РСТУФХЦЧШЩЪЫЬЭЮЯ",
 "абвгдежзийклмноп",
 "рстуфхцчшщъыьэюя",
 "№ёђѓєѕіїјљњћќ§ўџ"]⟩

/-- The page `iso8859_6`. -/
def iso88596 : CodePage :=
  ⟨["iso8859_6"],
   ["arabic", "asmo_708", "csisolatinarabic", "ecma_114", "iso_8859_6", "iso_8859_6_1987",
   "iso_ir_127"],
   [],
   [
 "\x80\x81\x82\x83\x84\x85\x86\x87\x88\x89\x8a\x8b\x8c\x8d\x8e\x8f",
 "\x90\x91\x92\x93\x94\x95\x96\x97\x98\x99\x9a\x9b\x9c\x9d\x9e\x9f",
 "\xa0\ufffd\ufffd\ufffd¤\ufffd\ufffd\ufffd\ufffd\ufffd\ufffd\ufffd،\xad\ufffd\ufffd",
 "\ufffd\ufffd\ufffd\ufffd\ufffd\ufffd\ufffd\ufffd\ufffd\ufffd\ufffd\u061b\ufffd\ufffd\ufffd\u061f",
 "\ufffd\u0621\u0622\u0623\u0624\u0625\u0626\u0627\u0628\u0629\u062a\u062b\u062c\u062d\u062e\u062f",
 "\u0630\u0631\u0632\u0633\u0634\u0635\u0636\u0637\u0638\u0639\u063a\ufffd\ufffd\ufffd\ufffd\ufffd",
 "\u0640\u0641\u0642\u0643\u0644\u0645\u0646\u0647\u0648\u0649\u064a\u064b\u064c\u064d\u064e\u064f",
 "\u0650\u0651\u0652\ufffd\ufffd\ufffd\ufffd\ufffd\ufffd\ufffd\ufffd\ufffd\ufffd\ufffd\ufffd\ufffd"
 ]⟩

/-- The page `iso8859_7`. -/
def iso88597 : CodePage :=
  ⟨["iso8859_7"],
   ["csisolatingreek", "ecma_118", "elot_928", "greek", "greek8", "iso_8859_7", "iso_8859_7_1987",
   "iso_ir_126"],
   [],
   [
 "\x80\x81\x82\x83\x84\x85\x86\x87\x88\x89\x8a\x8b\x8c\x8d\x8e\x8f",
 "\x90\x91\x92\x93\x94\x95\x96\x97\x98\x99\x9a\x9b\x9c\x9d\x9e\x9f",
 "\xa0‘’£€₯¦§¨©ͺ«¬\xad\ufffd―",
 "°±²³΄΅Ά·ΈΉΊ»Ό½ΎΏ",
 "ΐΑΒΓΔΕΖΗΘΙΚΛΜΝΞΟ",
 "ΠΡ\ufffdΣΤΥΦΧΨΩΪΫάέήί",
 "ΰαβγδεζηθικλμνξο",
 "πρςστυφχψωϊϋόύώ\ufffd"]⟩

/-- The page `iso8859_8`. -/
def iso88598 : CodePage :=
  ⟨["iso8859_8"],
   ["csisolatinhebrew", "hebrew", "iso_8859_8", "iso_8859_8_1988", "iso_ir_138"],
   [],
   [
 "\x80\x81\x82\x83\x84\x85\x86\x87\x88\x89\x8a\x8b\x8c\x8d\x8e\x8f",
 "\x90\x91\x92\x93\x94\x95\x96\x97\x98\x99\x9a\x9b\x9c\x9d\x9e\x9f",
 "\xa0\ufffd¢£¤¥¦§¨©×«¬\xad®¯",
 "°±²³´µ¶·¸¹÷»¼½¾\ufffd",
 "\ufffd\ufffd\ufffd\ufffd\ufffd\ufffd\ufffd\ufffd\ufffd\ufffd\ufffd\ufffd\ufffd\ufffd\ufffd\ufffd",
 "\ufffd\ufffd\ufffd\ufffd\ufffd\ufffd\ufffd\ufffd\ufffd\ufffd\ufffd\ufffd\ufffd\ufffd\ufffd‗",
 "\u05d0\u05d1\u05d2\u05d3\u05d4\u05d5\u05d6\u05d7\u05d8\u05d9\u05da\u05db\u05dc\u05dd\u05de\u05df",
 "\u05e0\u05e1\u05e2\u05e3\u05e4\u05e5\u05e6\u05e7\u05e8\u05e9\u05ea\ufffd\ufffd\u200e\u200f\ufffd"
 ]⟩

/-- The page `iso8859_9`. -/
def iso88599 : CodePage :=
  ⟨["iso8859_9"],
   ["csisolatin5", "iso_8859_9", "iso_8859_9_1989", "iso_ir_148", "l5", "latin5"],
   [],
   [
 "\x80\x81\x82\x83\x84\x85\x86\x87\x88\x89\x8a\x8b\x8c\x8d\x8e\x8f",
 "\x90\x91\x92\x93\x94\x95\x96\x97\x98\x99\x9a\x9b\x9c\x9d\x9e\x9f",
 "\xa0¡¢£¤¥¦§¨©ª«¬\xad®¯",
 "°±²³´µ¶·¸¹º»¼½¾¿",
 "ÀÁÂÃÄÅÆÇÈÉÊËÌÍÎÏ",
 "ĞÑÒÓÔÕÖ×ØÙÚÛÜİŞß",
 "àáâãäåæçèéêëìíîï",
 "ğñòóôõö÷øùúûüışÿ"]⟩

/-- The page `iso8859_10`. -/
def iso885910 : CodePage :=
  ⟨["iso8859_10"],
   ["csisolatin6", "iso_8859_10", "iso_8859_10_1992", "iso_ir_157", "l6", "latin6"],
   [],
   [
 "\x80\x81\x82\x83\x84\x85\x86\x87\x88\x89\x8a\x8b\x8c\x8d\x8e\x8f",
 "\x90\x91\x92\x93\x94\x95\x96\x97\x98\x99\x9a\x9b\x9c\x9d\x9e\x9f",
 "\xa0ĄĒĢĪĨĶ§ĻĐŠŦŽ\xadŪŊ",
 "°ąēģīĩķ·ļđšŧž―ūŋ",
 "ĀÁÂÃÄÅÆĮČÉĘËĖÍÎÏ",
 "ÐŅŌÓÔÕÖŨØŲÚÛÜÝÞß",
 "āáâãäåæįčéęëėíîï",
 "ðņōóôõöũøųúûüýþĸ"]⟩

/-- The page `iso8859_11`. -/
def iso885911 : CodePage :=
  ⟨["iso8859_11"],
   ["iso_8859_11", "iso_8859_11_2001", "thai"],
   [],
   [
 "\x80\x81\x82\x83\x84\x85\x86\x87\x88\x89\x8a\x8b\x8c\x8d\x8e\x8f",
 "\x90\x91\x92\x93\x94\x95\x96\x97\x98\x99\x9a\x9b\x9c\x9d\x9e\x9f",
 "\xa0กขฃคฅฆงจฉชซฌญฎฏ",
 "ฐฑฒณดตถทธนบปผฝพฟ",
 "ภมยรฤลฦวศษสหฬอฮฯ",
 "ะ\u0e31าำ\u0e34\u0e35\u0e36\u0e37\u0e38\u0e39\u0e3a\ufffd\ufffd\ufffd\ufffd฿",
 "เแโใไๅๆ\u0e47\u0e48\u0e49\u0e4a\u0e4b\u0e4c\u0e4d\u0e4e๏",
 "๐๑๒๓๔๕๖๗๘๙๚๛\ufffd\ufffd\ufffd\ufffd"]⟩

/-- The page `iso8859_13`. -/
def iso885913 : CodePage :=
  ⟨["iso8859_13"],
   ["iso_8859_13", "l7", "latin7"],
   [],
   [
 "\x80\x81\x82\x83\x84\x85\x86\x87\x88\x89\x8a\x8b\x8c\x8d\x8e\x8f",
 "\x90\x91\x92\x93\x94\x95\x96\x97\x98\x99\x9a\x9b\x9c\x9d\x9e\x9f",
 "\xa0”¢£¤„¦§Ø©Ŗ«¬\xad®Æ",
 "°±²³“µ¶·ø¹ŗ»¼½¾æ",
 "ĄĮĀĆÄÅĘĒČÉŹĖĢĶĪĻ",
 "ŠŃŅÓŌÕÖ×ŲŁŚŪÜŻŽß",
 "ąįāćäåęēčéźėģķīļ",
 "šńņóōõö÷ųłśūüżž’"]⟩

/-- The page `iso8859_14`. -/
def iso885914 : CodePage :=
  ⟨["iso8859_14"],
   ["iso_8859_14", "iso_8859_14_1998", "iso_celtic", "iso_ir_199", "l8", "latin8"],
   [],
   [
 "\x80\x81\x82\x83\x84\x85\x86\x87\x88\x89\x8a\x8b\x8c\x8d\x8e\x8f",
 "\x90\x91\x92\x93\x94\x95\x96\x97\x98\x99\x9a\x9b\x9c\x9d\x9e\x9f",
 "\xa0Ḃḃ£ĊċḊ§Ẁ©ẂḋỲ\xad®Ÿ",
 "ḞḟĠġṀṁ¶ṖẁṗẃṠỳẄẅṡ",
 "ÀÁÂÃÄÅÆÇÈÉÊËÌÍÎÏ",
 "ŴÑÒÓÔÕÖṪØÙÚÛÜÝŶß",
 "àáâãäåæçèéêëìíîï",
 "ŵñòóôõöṫøùúûüýŷÿ"]⟩

/-- The page `iso8859_15`. -/
def iso885915 : CodePage :=
  ⟨["iso8859_15"],
   ["iso_8859_15", "l9", "latin9"],
   [],
   [
 "\x80\x81\x82\x83\x84\x85\x86\x87\x88\x89\x8a\x8b\x8c\x8d\x8e\x8f",
 "\x90\x91\x92\x93\x94\x95\x96\x97\x98\x99\x9a\x9b\x9c\x9d\x9e\x9f",
 "\xa0¡¢£€¥Š§š©ª«¬\xad®¯",
 "°±²³Žµ¶·ž¹º»ŒœŸ¿",
 "ÀÁÂÃÄÅÆÇÈÉÊËÌÍÎÏ",
 "ÐÑÒÓÔÕÖ×ØÙÚÛÜÝÞß",
 "àáâãäåæçèéêëìíîï",
 "ðñòóôõö÷øùúûüýþÿ"]⟩

/-- The page `iso8859_16`. -/
def iso885916 : CodePage :=
  ⟨["iso8859_16"],
   ["iso_8859_16", "iso_8859_16_2001", "iso_ir_226", "l10", "latin10"],
   [],
   [
 "\x80\x81\x82\x83\x84\x85\x86\x87\x88\x89\x8a\x8b\x8c\x8d\x8e\x8f",
 "\x90\x91\x92\x93\x94\x95\x96\x97\x98\x99\x9a\x9b\x9c\x9d\x9e\x9f",
 "\xa0ĄąŁ€„Š§š©Ș«Ź\xadźŻ",
 "°±ČłŽ”¶·žčș»ŒœŸż",
 "ÀÁÂĂÄĆÆÇÈÉÊËÌÍÎÏ",
 "ĐŃÒÓÔŐÖŚŰÙÚÛÜĘȚß",
 "àáâăäćæçèéêëìíîï",
 "đńòóôőöśűùúûüęțÿ"]⟩

/-- The page `koi8_r`. -/
def koi8R : CodePage :=
  ⟨["koi8_r"],
   ["cskoi8r"],
   [],
   [
 "─│┌┐└┘├┤┬┴┼▀▄█▌▐",
 "░▒▓⌠■∙√≈≤≥\xa0⌡°²·÷",
 "═║╒ё╓╔╕╖╗╘╙╚╛╜╝╞",
 "╟╠╡Ё╢╣╤╥╦╧╨╩╪╫╬©",
 "юабцдефгхийклмно",
 "пярстужвьызшэщчъ",
 "ЮАБЦДЕФГХИЙКЛМНО",
 "ПЯРСТУЖВЬЫЗШЭЩЧЪ"]⟩

/-- The page `koi8_t`. -/
def koi8T : CodePage :=
  ⟨["koi8_t"],
   [],
   [],
   [
 "қғ‚Ғ„…†‡\ufffd‰ҳ‹ҲҷҶ\ufffd",
 "Қ‘’“”•–—\ufffd™\ufffd›\ufffd\ufffd\ufffd\ufffd",
 "\ufffdӯӮё¤ӣ¦§\ufffd\ufffd\ufffd«¬\xad®\ufffd",
 "°±²Ё\ufffdӢ¶·\ufffd№\ufffd»\ufffd\ufffd\ufffd©",
 "юабцдефгхийклмно",
 "пярстужвьызшэщчъ",
 "ЮАБЦДЕФГХИЙКЛМНО",
 "ПЯРСТУЖВЬЫЗШЭЩЧЪ"]⟩

/-- The page `koi8_u`. -/
def koi8U : CodePage :=
  ⟨["koi8_u"],
   [],
   [],
   [
 "─│┌┐└┘├┤┬┴┼▀▄█▌▐",
 "░▒▓⌠■∙√≈≤≥\xa0⌡°²·÷",
 "═║╒ёє╔ії╗╘╙╚╛ґ╝╞",
 "╟╠╡ЁЄ╣ІЇ╦╧╨╩╪Ґ╬©",
 "юабцдефгхийклмно",
 "пярстужвьызшэщчъ",
 "ЮАБЦДЕФГХИЙКЛМНО",
 "ПЯРСТУЖВЬЫЗШЭЩЧЪ"]⟩

/-- The page `kz1048`. -/
def kz1048 : CodePage :=
  ⟨["kz1048"],
   ["kz_1048", "rk1048", "strk1048_2002"],
   [],
   [
 "ЂЃ‚ѓ„…†‡€‰Љ‹ЊҚҺЏ",
 "ђ‘’“”•–—\ufffd™љ›њқһџ",
 "\xa0ҰұӘ¤Ө¦§Ё©Ғ«¬\xad®Ү",
 "°±Ііөµ¶·ё№ғ»әҢңү",
 "АБВГДЕЖЗИЙКЛМНОП",
 "РСТУФХЦЧШЩЪЫЬЭЮЯ",
 "абвгдежзийклмноп",
 "рстуфхцчшщъыьэюя"]⟩

/-- The page `mac_croatian`. -/
def macCroatian : CodePage :=
  ⟨["mac_croatian"],
   [],
   [],
   [
 "ÄÅÇÉÑÖÜáàâäãåçéè",
 "êëíìîïñóòôöõúùûü",
 "†°¢£§•¶ß®Š™´¨≠ŽØ",
 "∞±≤≥∆µ∂∑∏š∫ªºΩžø",
 "¿¡¬√ƒ≈Ć«Č…\xa0ÀÃÕŒœ",
 "Đ—“”‘’÷◊\uf8ff©⁄€‹›Æ»",
 "–·‚„‰ÂćÁčÈÍÎÏÌÓÔ",
 "đÒÚÛÙıˆ˜¯πË˚¸Êæˇ"]⟩

/-- The page `mac_cyrillic`. -/
def macCyrillic : CodePage :=
  ⟨["mac_cyrillic"],
   ["maccyrillic"],
   [],
   [
 "АБВГДЕЖЗИЙКЛМНОП",
 "РСТУФХЦЧШЩЪЫЬЭЮЯ",
 "†°Ґ£§•¶І®©™Ђђ≠Ѓѓ",
 "∞±≤≥іµґЈЄєЇїЉљЊњ",
 "јЅ¬√ƒ≈∆«»…\xa0ЋћЌќѕ",
 "–—“”‘’÷„ЎўЏџ№Ёёя",
 "абвгдежзийклмноп",
 "рстуфхцчшщъыьэю€"]⟩

/-- The page `mac_greek`. -/
def macGreek : CodePage :=
  ⟨["mac_greek"],
   ["macgreek"],
   [],
   [
 "Ä¹²É³ÖÜ΅àâä΄¨çéè",
 "êë£™îï•½‰ôö¦€ùûü",
 "†ΓΔΘΛΞΠß®©ΣΪ§≠°·",
 "Α±≤≥¥ΒΕΖΗΙΚΜΦΫΨΩ",
 "άΝ¬ΟΡ≈Τ«»…\xa0ΥΧΆΈœ",
 "–―“”‘’÷ΉΊΌΎέήίόΏ",
 "ύαβψδεφγηιξκλμνο",
 "πώρστθωςχυζϊϋΐΰ\xad"]⟩

/-- The page `mac_iceland`. -/
def macIceland : CodePage :=
  ⟨["mac_iceland"],
   ["maciceland"],
   [],
   [
 "ÄÅÇÉÑÖÜáàâäãåçéè",
 "êëíìîïñóòôöõúùûü",
 "Ý°¢£§•¶ß®©™´¨≠ÆØ",
 "∞±≤≥¥µ∂∑∏π∫ªºΩæø",
 "¿¡¬√ƒ≈∆«»…\xa0ÀÃÕŒœ",
 "–—“”‘’÷◊ÿŸ⁄€ÐðÞþ",
 "ý·‚„‰ÂÊÁËÈÍÎÏÌÓÔ",
 "\uf8ffÒÚÛÙıˆ˜¯˘˙˚¸˝˛ˇ"]⟩

/-- The page `mac_latin2`. -/
def macLatin2 : CodePage :=
  ⟨["mac_latin2"],
   ["mac_centeuro", "maccentraleurope", "maclatin2"],
   [],
   [
 "ÄĀāÉĄÖÜáąČäčĆćéŹ",
 "źĎíďĒēĖóėôöõúĚěü",
 "†°Ę£§•¶ß®©™ę¨≠ģĮ",
 "įĪ≤≥īĶ∂∑łĻļĽľĹĺŅ",
 "ņŃ¬√ńŇ∆«»…\xa0ňŐÕőŌ",
 "–—“”‘’÷◊ōŔŕŘ‹›řŖ",
 "ŗŠ‚„šŚśÁŤťÍŽžŪÓÔ",
 "ūŮÚůŰűŲųÝýķŻŁżĢˇ"]⟩

/-- The page `mac_roman`. -/
def macRoman : CodePage :=
  ⟨["mac_roman"],
   ["macintosh", "macroman"],
   [],
   [
 "ÄÅÇÉÑÖÜáàâäãåçéè",
 "êëíìîïñóòôöõúùûü",
 "†°¢£§•¶ß®©™´¨≠ÆØ",
 "∞±≤≥¥µ∂∑∏π∫ªºΩæø",
 "¿¡¬√ƒ≈∆«»…\xa0ÀÃÕŒœ",
 "–—“”‘’÷◊ÿŸ⁄€‹›ﬁﬂ",
 "‡·‚„‰ÂÊÁËÈÍÎÏÌÓÔ",
 "\uf8ffÒÚÛÙıˆ˜¯˘˙˚¸˝˛ˇ"]⟩

/-- The page `mac_romanian`. -/
def macRomanian : CodePage :=
  ⟨["mac_romanian"],
   [],
   [],
   [
 "ÄÅÇÉÑÖÜáàâäãåçéè",
 "êëíìîïñóòôöõúùûü",
 "†°¢£§•¶ß®©™´¨≠ĂȘ",
 "∞±≤≥¥µ∂∑∏π∫ªºΩăș",
 "¿¡¬√ƒ≈∆«»…\xa0ÀÃÕŒœ",
 "–—“”‘’÷◊ÿŸ⁄€‹›Țț",
 "‡·‚„‰ÂÊÁËÈÍÎÏÌÓÔ",
 "\uf8ffÒÚÛÙıˆ˜¯˘˙˚¸˝˛ˇ"]⟩

/-- The page `mac_turkish`. -/
def macTurkish : CodePage :=
  ⟨["mac_turkish"],
   ["macturkish"],
   [],
   [
 "ÄÅÇÉÑÖÜáàâäãåçéè",
 "êëíìîïñóòôöõúùûü",
 "†°¢£§•¶ß®©™´¨≠ÆØ",
 "∞±≤≥¥µ∂∑∏π∫ªºΩæø",
 "¿¡¬√ƒ≈∆«»…\xa0ÀÃÕŒœ",
 "–—“”‘’÷◊ÿŸĞğİıŞş",
 "‡·‚„‰ÂÊÁËÈÍÎÏÌÓÔ",
 "\uf8ffÒÚÛÙ\uf8a0ˆ˜¯˘˙˚¸˝˛ˇ"]⟩

/-- The page `palmos`. -/
def palmos : CodePage :=
  ⟨["palmos"],
   [],
   [],
   [
 "€\x81‚ƒ„…†‡ˆ‰Š‹Œ♦♣♥",
 "♠‘’“”•–—˜™š\x9bœ\x9d\x9eŸ",
 "\xa0¡¢£¤¥¦§¨©ª«¬\xad®¯",
 "°±²³´µ¶·¸¹º»¼½¾¿",
 "ÀÁÂÃÄÅÆÇÈÉÊËÌÍÎÏ",
 "ÐÑÒÓÔÕÖ×ØÙÚÛÜÝÞß",
 "àáâãäåæçèéêëìíîï",
 "ðñòóôõö÷øùúûüýþÿ"]⟩

/-- The page `ptcp154`. -/
def ptcp154 : CodePage :=
  ⟨["ptcp154"],
   ["cp154", "csptcp154", "cyrillic_asian", "pt154"],
   [],
   [
 "ҖҒӮғ„…ҶҮҲүҠӢҢҚҺҸ",
 "җ‘’“”•–—ҳҷҡӣңқһҹ",
 "\xa0ЎўЈӨҘҰ§Ё©Ә«¬ӯ®Ҝ",
 "°ұІіҙө¶·ё№ә»јҪҫҝ",
 "АБВГДЕЖЗИЙКЛМНОП",
 "РСТУФХЦЧШЩЪЫЬЭЮЯ",
 "абвгдежзийклмноп",
 "рстуфхцчшщъыьэюя"]⟩

/-- The page `tis_620`. -/
def tis620 : CodePage :=
  ⟨["tis_620"],
   ["iso_ir_166", "tis620", "tis_620_0", "tis_620_2529_0", "tis_620_2529_1"],
   [],
   [
 "\x80\x81\x82\x83\x84\x85\x86\x87\x88\x89\x8a\x8b\x8c\x8d\x8e\x8f",
 "\x90\x91\x92\x93\x94\x95\x96\x97\x98\x99\x9a\x9b\x9c\x9d\x9e\x9f",
 "\ufffdกขฃคฅฆงจฉชซฌญฎฏ",
 "ฐฑฒณดตถทธนบปผฝพฟ",
 "ภมยรฤลฦวศษสหฬอฮฯ",
 "ะ\u0e31าำ\u0e34\u0e35\u0e36\u0e37\u0e38\u0e39\u0e3a\ufffd\ufffd\ufffd\ufffd฿",
 "เแโใไๅๆ\u0e47\u0e48\u0e49\u0e4a\u0e4b\u0e4c\u0e4d\u0e4e๏",
 "๐๑๒๓๔๕๖๗๘๙๚๛\ufffd\ufffd\ufffd\ufffd"]⟩

/-- All code pages. -/
def all : List CodePage := [
  ascii, cp437, cp720, cp737, cp775, cp850, cp852, cp855, cp856, cp857, cp858, cp860, cp861, cp862,
  cp863, cp865, cp866, cp869, cp874, cp1006, cp1125, cp1250, cp1251, cp1252, cp1253, cp1254, cp1255,
  cp1256, cp1257, cp1258, hpRoman8, hz, iso88591, iso88592, iso88593, iso88594, iso88595, iso88596,
  iso88597, iso88598, iso88599, iso885910, iso885911, iso885913, iso885914, iso885915, iso885916,
  koi8R, koi8T, koi8U, kz1048, macCroatian, macCyrillic, macGreek, macIceland, macLatin2, macRoman,
  macRomanian, macTurkish, palmos, ptcp154, tis620]

/-- The names of encodings that use several octets for a character. -/
def multiByteNames : List String := [
  "big5", "big5hkscs", "cp932", "cp949", "cp950", "euc_jis_2004", "euc_jisx0213", "euc_jp",
  "euc_kr", "gb18030", "gb2312", "gbk", "iso2022_kr", "johab", "shift_jis", "shift_jis_2004",
  "shift_jisx0213", "utf_16", "utf_16_be", "utf_16_le", "utf_32", "utf_32_be", "utf_32_le", "utf_7"]

/-- More names that such encodings are known by. -/
def multiByteAliases : List String := [
  "big5_hkscs", "big5_tw", "chinese", "cp1361", "cp936", "csbig5", "csiso2022kr", "csiso58gb231280",
  "csshiftjis", "euc_cn", "euc_jis2004", "euccn", "eucgb2312_cn", "eucjis2004", "eucjisx0213",
  "eucjp", "euckr", "gb18030_2000", "gb2312_1980", "gb2312_80", "hkscs", "iso2022kr", "iso_2022_kr",
  "iso_ir_58", "jisx0213", "korean", "ks_c_5601", "ks_c_5601_1987", "ks_x_1001", "ksc5601",
  "ksx1001", "ms1361", "ms932", "ms936", "ms949", "ms950", "ms_kanji", "mskanji", "s_jis",
  "s_jis_2004", "s_jisx0213", "shiftjis", "shiftjis2004", "shiftjisx0213", "sjis", "sjis_2004",
  "sjisx0213", "u16", "u32", "u7", "u_jis", "uhc", "ujis", "unicode_1_1_utf_7",
  "unicodebigunmarked", "unicodelittleunmarked", "utf16", "utf32", "utf7", "utf_16be", "utf_16le",
  "utf_32be", "utf_32le", "x_mac_japanese", "x_mac_korean", "x_mac_simp_chinese",
  "x_mac_trad_chinese"]

/-- The form in which names of encodings are compared: lower case, with one low line for each run of
characters that are neither alphanumeric nor a full stop, and none at either end. -/
def normalisedName (name : String) : String :=
  let isKept := fun c : Char => c.isAlphanum || c = '.'
  let words := (Text.pieces ['_'] (by simp)
    (name.toList.map fun c => if isKept c then c.toLower else '_')).filter (· ≠ [])
  String.ofList (['_'].intercalate words)

/-- Whether a name is among registered names and aliases. A full stop in an alias may stand for a
low line. -/
def isNamed (names aliases : List String) (name : String) : Bool :=
  let undotted := String.ofList (name.toList.map fun c => if c = '.' then '_' else c)
  names.contains name || aliases.contains name || aliases.contains undotted

/-- The code page that a name stands for. -/
def find? (name : String) : Option CodePage :=
  all.find? fun page => isNamed page.names page.aliases (normalisedName name)

/-- Whether a name stands for an encoding that uses several octets for a character. -/
def isMultiByte (name : String) : Bool :=
  isNamed multiByteNames multiByteAliases (normalisedName name)

end CodePage

end JuceBuild.Xml
