import JsonDesk.Text.CodePage

set_option autoImplicit false

namespace JsonDesk.CodePage

def iso8859_2 : CodePage := latin1
  |>.put 0xA1 ["Ą˘Ł¤ĽŚ§¨ŠŞŤŹ\xadŽŻ", "°ą˛ł´ľśˇ¸šşťź˝žż", "ŔÁÂĂÄĹĆÇČÉĘËĚÍÎĎ", "ĐŃŇÓÔŐÖ×ŘŮÚŰÜÝŢß",
    "ŕáâăäĺćçčéęëěíîď", "đńňóôőö÷řůúűüýţ˙"]

def iso8859_3 : CodePage := iso8859_2
  |>.put 0xA1 ["Ħ˘£¤\ufffdĤ§¨İŞĞĴ\xad\ufffdŻ", "°ħ²³´µĥ·¸ışğĵ½\ufffdż", "ÀÁÂ\ufffdÄĊĈÇÈÉÊËÌÍÎÏ",
    "\ufffdÑÒÓÔĠÖ×ĜÙÚÛÜŬŜß", "àáâ\ufffdäċĉçèéêëìíîï", "\ufffdñòóôġö÷ĝùúûüŭŝ"]

def iso8859_4 : CodePage := iso8859_2
  |>.put 0xA2 ["ĸŖ¤ĨĻ§¨ŠĒĢŦ\xadŽ¯", "°ą˛ŗ´ĩļˇ¸šēģŧŊžŋ", "ĀÁÂÃÄÅÆĮČÉĘËĖÍÎĪ", "ĐŅŌĶÔÕÖ×ØŲÚÛÜŨŪß",
    "āáâãäåæįčéęëėíîī", "đņōķôõö÷øųúûüũū"]

def iso8859_5 : CodePage := latin1 |>.run 0xA1 0x401 12 |>.run 0xAE 0x40E 66 |>.put 0xF0 ["№"]
  |>.run 0xF1 0x451 12 |>.put 0xFD ["§ўџ"]

def iso8859_6 : CodePage := ascii |>.run 0x80 0x80 33 |>.put 0xA4 ["¤"] |>.put 0xAC ["،\xad"]
  |>.put 0xBB ["\u061b"] |>.put 0xBF ["\u061f"] |>.run 0xC1 0x621 26 |>.run 0xE0 0x640 19

def iso8859_7 : CodePage := ascii |>.run 0x80 0x80 33
  |>.put 0xA1 ["‘’£€₯¦§¨©ͺ«¬\xad\ufffd―", "°±²³΄΅Ά·ΈΉΊ»Ό½"] |>.run 0xBE 0x38E 20
  |>.run 0xD3 0x3A3 44

def iso8859_8 : CodePage := ascii |>.run 0x80 0x80 33 |>.put 0xA2 ["¢£¤¥¦§¨©×"] |>.run 0xAB 0xAB 15
  |>.put 0xBA ["÷»¼½¾"] |>.put 0xDF ["‗"] |>.run 0xE0 0x5D0 27 |>.put 0xFD ["\u200e\u200f"]

def iso8859_9 : CodePage := latin1 |>.put 0xD0 ["Ğ"] |>.put 0xDD ["İŞ"] |>.put 0xF0 ["ğ"]
  |>.put 0xFD ["ış"]

def iso8859_10 : CodePage := iso8859_2
  |>.put 0xA2 ["ĒĢĪĨĶ§ĻĐŠŦŽ\xadŪŊ", "°ąēģīĩķ·ļđšŧž―ūŋ", "ĀÁÂÃÄÅÆĮČÉĘËĖÍÎÏ", "ÐŅŌÓÔÕÖŨØŲÚÛÜÝÞß",
    "āáâãäåæįčéęëėíîï", "ðņōóôõöũøųúûüýþĸ"]

def tis620 : CodePage := ascii |>.run 0x80 0x80 32 |>.run 0xA1 0xE01 58 |>.run 0xDF 0xE3F 29

def iso8859_11 : CodePage := tis620 |>.put 0xA0 ["\xa0"]

def iso8859_13 : CodePage := latin1
  |>.put 0xA1 ["”¢£¤„¦§Ø©Ŗ«¬\xad®Æ", "°±²³“µ¶·ø¹ŗ»¼½¾æ", "ĄĮĀĆÄÅĘĒČÉŹĖĢĶĪĻ", "ŠŃŅÓŌÕÖ×ŲŁŚŪÜŻŽß",
    "ąįāćäåęēčéźėģķīļ", "šńņóōõö÷ųłśūüżž’"]

def iso8859_14 : CodePage := iso8859_2 |>.put 0xA1 ["Ḃḃ£ĊċḊ§Ẁ©ẂḋỲ\xad®Ÿ", "ḞḟĠġṀṁ¶ṖẁṗẃṠỳẄẅṡ"]
  |>.run 0xC0 0xC0 16 |>.put 0xD0 ["ŴÑÒÓÔÕÖṪØÙÚÛÜÝŶ"] |>.run 0xE0 0xE0 16
  |>.put 0xF0 ["ŵñòóôõöṫøùúûüýŷÿ"]

def iso8859_15 : CodePage := latin1 |>.put 0xA4 ["€¥Š§š"] |>.put 0xB4 ["Žµ¶·ž¹º»ŒœŸ"]

def iso8859_16 : CodePage := iso8859_2
  |>.put 0xA2 ["ąŁ€„Š§š©Ș«Ź\xadźŻ", "°±ČłŽ”¶·žčș»ŒœŸż", "ÀÁÂĂÄĆÆÇÈÉÊËÌÍÎÏ", "ĐŃÒÓÔŐÖŚŰÙÚÛÜĘȚß",
    "àáâăäćæçèéêëìíîï", "đńòóôőöśűùúûüęțÿ"]

def cp1252 : CodePage := latin1
  |>.put 0x80 ["€\ufffd‚ƒ„…†‡ˆ‰Š‹Œ\ufffdŽ\ufffd", "\ufffd‘’“”•–—˜™š›œ\ufffdžŸ"]

def cp1250 : CodePage := iso8859_2
  |>.put 0x80 ["€\ufffd‚\ufffd„…†‡\ufffd‰Š‹ŚŤŽŹ", "\ufffd‘’“”•–—\ufffd™š›śťžź",
    "\xa0ˇ˘Ł¤Ą¦§¨©Ş«¬\xad®Ż", "°±˛ł´µ¶·¸ąş»Ľ˝ľ"]

def cp1251 : CodePage := ascii
  |>.put 0x80 ["ЂЃ‚ѓ„…†‡€‰Љ‹ЊЌЋЏ", "ђ‘’“”•–—\ufffd™љ›њќћџ", "\xa0ЎўЈ¤Ґ¦§Ё©Є«¬\xad®Ї",
    "°±Ііґµ¶·ё№є»јЅѕї"] |>.run 0xC0 0x410 64

def cp1253 : CodePage := iso8859_7 |>.put 0x80 ["€\ufffd‚ƒ„…†‡\ufffd‰\ufffd‹"] |>.clear 0x8C 5
  |>.put 0x91 ["‘’“”•–—\ufffd™\ufffd›"] |>.clear 0x9C 4 |>.put 0xA1 ["΅Ά£¤¥¦§¨©\ufffd«¬\xad®"]
  |>.put 0xB5 ["µ¶"]

def cp1254 : CodePage := iso8859_9 |>.put 0x80 ["€\ufffd‚ƒ„…†‡ˆ‰Š‹Œ"] |>.clear 0x8D 4
  |>.put 0x91 ["‘’“”•–—˜™š›œ\ufffd\ufffdŸ"]

def cp1255 : CodePage := iso8859_8 |>.put 0x80 ["€\ufffd‚ƒ„…†‡ˆ‰\ufffd‹"] |>.clear 0x8C 5
  |>.put 0x91 ["‘’“”•–—˜™\ufffd›"] |>.clear 0x9C 4 |>.put 0xA1 ["¡"] |>.put 0xA4 ["₪"]
  |>.put 0xBF ["¿", "\u05b0\u05b1\u05b2\u05b3\u05b4\u05b5\u05b6\u05b7",
    "\u05b8\u05b9\ufffd\u05bb\u05bc\u05bd\u05be\u05bf",
    "\u05c0\u05c1\u05c2\u05c3\u05f0\u05f1\u05f2\u05f3\u05f4"] |>.clear 0xD9 7

def cp1256 : CodePage := iso8859_6
  |>.put 0x80 ["€\u067e‚ƒ„…†‡ˆ‰\u0679‹Œ\u0686\u0698\u0688",
    "\u06af‘’“”•–—\u06a9™\u0691›œ\u200c\u200d\u06ba", "\xa0،¢£¤¥¦§¨©\u06be"] |>.run 0xAB 0xAB 15
  |>.put 0xBA ["\u061b»¼½¾\u061f", "\u06c1"]
  |>.put 0xD7 ["×\u0637\u0638\u0639\u063a\u0640\u0641\u0642\u0643",
    "à\u0644â\u0645\u0646\u0647\u0648çèéêë\u0649\u064aîï",
    "\u064b\u064c\u064d\u064eô\u064f\u0650÷\u0651ù\u0652ûü\u200e\u200f\u06d2"]

def cp1257 : CodePage := iso8859_13
  |>.put 0x80 ["€\ufffd‚\ufffd„…†‡\ufffd‰\ufffd‹\ufffd¨ˇ¸",
    "\ufffd‘’“”•–—\ufffd™\ufffd›\ufffd¯˛\ufffd", "\xa0\ufffd¢£¤\ufffd"] |>.put 0xB4 ["´"]
  |>.put 0xFF ["˙"]

def cp1258 : CodePage := cp1255 |>.put 0x8C ["Œ"] |>.put 0x9C ["œ\ufffd\ufffdŸ"] |>.run 0xA4 0xA4 31
  |>.put 0xC3 ["ĂÄÅÆÇÈÉÊË\u0300ÍÎÏ", "ĐÑ\u0309ÓÔƠÖ×ØÙÚÛÜƯ\u0303ß", "àáâăäåæçèéêë\u0301íîï",
    "đñ\u0323óôơö÷øùúûüư₫ÿ"]

def cp874 : CodePage := cp1255 |>.clear 0x82 3 |>.clear 0x86 11 |>.clear 0x98 8 |>.run 0xA1 0xE01 58
  |>.run 0xDF 0xE3F 29 |>.clear 0xFC 4

def kz1048 : CodePage := cp1251 |>.put 0x8D ["ҚҺ"]
  |>.put 0x9D ["қһџ", "\xa0ҰұӘ¤Ө¦§Ё©Ғ«¬\xad®Ү", "°±Ііө"] |>.put 0xBA ["ғ»әҢңү"]

def ptcp154 : CodePage := cp1251 |>.put 0x80 ["ҖҒӮғ„…ҶҮҲүҠӢҢҚҺҸ", "җ"]
  |>.put 0x98 ["ҳҷҡӣңқһҹ", "\xa0ЎўЈӨҘҰ§Ё©Ә«¬ӯ®Ҝ", "°ұІіҙө¶·ё№ә»јҪҫҝ"]

def palmos : CodePage := latin1 |>.put 0x80 ["€\x81‚ƒ„…†‡ˆ‰Š‹Œ♦♣♥", "♠‘’“”•–—˜™š\x9bœ\x9d\x9eŸ"]

def koi8R : CodePage := ascii |>.put 0x80 ["─│┌┐└┘├┤┬┴┼▀▄█▌▐", "░▒▓⌠■∙√≈≤≥\xa0⌡°²·÷", "═║╒ё"]
  |>.run 0xA4 0x2553 15
  |>.put 0xB3 ["Ё╢╣╤╥╦╧╨╩╪╫╬©", "юабцдефгхийклмно", "пярстужвьызшэщчъ", "ЮАБЦДЕФГХИЙКЛМНО",
    "ПЯРСТУЖВЬЫЗШЭЩЧЪ"]

def koi8U : CodePage := koi8R |>.put 0xA4 ["є╔ії"] |>.put 0xAD ["ґ"] |>.put 0xB4 ["Є╣ІЇ"]
  |>.put 0xBD ["Ґ"]

def koi8T : CodePage := koi8R |>.put 0x80 ["қғ‚Ғ„…†‡\ufffd‰ҳ‹ҲҷҶ\ufffd", "Қ‘’“”•–—\ufffd™\ufffd›"]
  |>.clear 0x9C 5 |>.put 0xA1 ["ӯӮё¤ӣ¦§"] |>.clear 0xA8 3
  |>.put 0xAB ["«¬\xad®\ufffd", "°±²Ё\ufffdӢ¶·\ufffd№\ufffd»"] |>.clear 0xBC 3

def cp437 : CodePage := ascii
  |>.put 0x80 ["ÇüéâäàåçêëèïîìÄÅ", "ÉæÆôöòûùÿÖÜ¢£¥₧ƒ", "áíóúñÑªº¿⌐¬½¼¡«»", "░▒▓│┤╡╢╖╕╣║╗╝╜╛┐",
    "└┴┬├─┼╞╟╚╔╩╦╠═╬╧", "╨╤╥╙╘╒╓╫╪┘┌█▄▌▐▀", "αßΓπΣσµτΦΘΩδ∞φε∩", "≡±≥≤⌠⌡÷≈°∙·√ⁿ²■\xa0"]

def cp720 : CodePage := cp437 |>.put 0x80 ["\x80\x81"] |>.put 0x84 ["\x84à\x86"]
  |>.put 0x8D ["\x8d\x8e\x8f", "\x90"]
  |>.put 0x91 ["\u0651\u0652ô¤\u0640ûù\u0621\u0622\u0623\u0624"] |>.run 0x9D 0x625 17
  |>.put 0xE0 ["\u0636\u0637\u0638\u0639\u063a\u0641µ\u0642",
    "\u0643\u0644\u0645\u0646\u0647\u0648\u0649\u064a", "≡\u064b\u064c\u064d\u064e\u064f\u0650"]

def cp737 : CodePage := cp437 |>.run 0x80 0x391 17 |>.put 0x91 ["ΣΤΥΦΧΨΩ"] |>.run 0x98 0x3B1 17
  |>.put 0xA9 ["σςτυφχψ"] |>.put 0xE0 ["ωάέήϊίόύϋώΆΈΉΊΌΎ", "Ώ±≥≤ΪΫ"]

def cp775 : CodePage := ascii
  |>.put 0x80 ["ĆüéāäģåćłēŖŗīŹÄÅ", "ÉæÆōöĢ¢ŚśÖÜø£Ø×¤", "ĀĪóŻżź”¦©®¬½¼Ł«»", "░▒▓│┤ĄČĘĖ╣║╗╝ĮŠ┐",
    "└┴┬├─┼ŲŪ╚╔╩╦╠═╬Ž", "ąčęėįšųūž┘┌█▄▌▐▀", "ÓßŌŃõÕµńĶķĻļņĒŅ’", "\xad±“¾¶§÷„°∙·¹³²■\xa0"]

def cp850 : CodePage := ascii
  |>.put 0x80 ["ÇüéâäàåçêëèïîìÄÅ", "ÉæÆôöòûùÿÖÜø£Ø×ƒ", "áíóúñÑªº¿®¬½¼¡«»", "░▒▓│┤ÁÂÀ©╣║╗╝¢¥┐",
    "└┴┬├─┼ãÃ╚╔╩╦╠═╬¤", "ðÐÊËÈıÍÎÏ┘┌█▄¦Ì▀", "ÓßÔÒõÕµþÞÚÛÙýÝ¯´", "\xad±‗¾¶§÷¸°¨·¹³²■\xa0"]

def cp852 : CodePage := ascii
  |>.put 0x80 ["ÇüéâäůćçłëŐőîŹÄĆ", "ÉĹĺôöĽľŚśÖÜŤťŁ×č", "áíóúĄąŽžĘę¬źČş«»", "░▒▓│┤ÁÂĚŞ╣║╗╝Żż┐",
    "└┴┬├─┼Ăă╚╔╩╦╠═╬¤", "đĐĎËďŇÍÎě┘┌█▄ŢŮ▀", "ÓßÔŃńňŠšŔÚŕŰýÝţ´", "\xad˝˛ˇ˘§÷¸°¨˙űŘř■\xa0"]

def cp855 : CodePage := ascii
  |>.put 0x80 ["ђЂѓЃёЁєЄѕЅіІїЇјЈ", "љЉњЊћЋќЌўЎџЏюЮъЪ", "аАбБцЦдДеЕфФгГ«»", "░▒▓│┤хХиИ╣║╗╝йЙ┐",
    "└┴┬├─┼кК╚╔╩╦╠═╬¤", "лЛмМнНоОп┘┌█▄Пя▀", "ЯрРсСтТуУжЖвВьЬ№", "\xadыЫзЗшШэЭщЩчЧ§■\xa0"]

def cp856 : CodePage := cp850 |>.run 0x80 0x5D0 27 |>.put 0x9B ["\ufffd£\ufffd"] |>.clear 0x9F 10
  |>.put 0xAD ["\ufffd"] |>.clear 0xB5 3 |>.put 0xC6 ["\ufffd\ufffd"] |>.clear 0xD0 9
  |>.put 0xDE ["\ufffd"] |>.clear 0xE0 6 |>.clear 0xE7 7

def cp857 : CodePage := cp850 |>.put 0x8D ["ı"] |>.put 0x98 ["İ"] |>.put 0x9E ["Şş"]
  |>.put 0xA6 ["Ğğ"] |>.put 0xD0 ["ºªÊËÈ\ufffd"] |>.put 0xE7 ["\ufffd×ÚÛÙìÿ¯´", "\xad±\ufffd"]

def cp858 : CodePage := cp850 |>.put 0xD5 ["€"]

def cp860 : CodePage := cp437 |>.put 0x84 ["ãàÁçêÊèÍÔìÃÂ", "ÉÀÈôõòÚùÌÕÜ¢£Ù₧Ó"] |>.put 0xA9 ["Ò"]

def cp861 : CodePage := cp860 |>.put 0x84 ["äàåçêëèÐðÞÄÅ", "ÉæÆôöþûÝýÖÜø£Ø₧ƒ", "áíóúÁÍÓÚ¿⌐"]

def cp862 : CodePage := cp437 |>.run 0x80 0x5D0 27

def cp863 : CodePage := cp860 |>.put 0x84 ["Âà¶çêëèïî‗À§", "ÉÈÊôËÏûù¤ÔÜ¢£ÙÛƒ", "¦´óú¨¸³¯Î⌐¬½¼¾"]

def cp864 : CodePage := ascii |>.put 0x25 ["٪"]
  |>.put 0x80 ["°·∙√▒─│┼┤┬├┴┐┌└┘", "β∞φ±½¼≈«»\ufef7\ufef8\ufffd\ufffd\ufefb\ufefc\ufffd",
    "\xa0\xad\ufe82£¤\ufe84\ufffd\ufffd\ufe8e\ufe8f\ufe95\ufe99،\ufe9d\ufea1\ufea5",
    "\u0660\u0661\u0662\u0663\u0664\u0665\u0666\u0667",
    "\u0668\u0669\ufed1\u061b\ufeb1\ufeb5\ufeb9\u061f",
    "¢\ufe80\ufe81\ufe83\ufe85\ufeca\ufe8b\ufe8d",
    "\ufe91\ufe93\ufe97\ufe9b\ufe9f\ufea3\ufea7\ufea9",
    "\ufeab\ufead\ufeaf\ufeb3\ufeb7\ufebb\ufebf\ufec1\ufec5\ufecb\ufecf¦¬÷×\ufec9",
    "\u0640\ufed3\ufed7\ufedb\ufedf\ufee3\ufee7\ufeeb",
    "\ufeed\ufeef\ufef3\ufebd\ufecc\ufece\ufecd\ufee1",
    "\ufe7d\u0651\ufee5\ufee9\ufeec\ufef0\ufef2\ufed0", "\ufed5\ufef5\ufef6\ufedd\ufed9\ufef1■"]

def cp865 : CodePage := cp437 |>.put 0x9B ["ø£Ø"] |>.put 0xAF ["¤"]

def cp866 : CodePage := cp437 |>.run 0x80 0x410 48 |>.run 0xE0 0x440 16
  |>.put 0xF0 ["ЁёЄєЇїЎў°∙·√№¤"]

def cp869 : CodePage := ascii
  |>.put 0x86 ["Ά\ufffd·¬¦‘’Έ―Ή", "ΊΪΌ\ufffd\ufffdΎΫ©Ώ²³ά£έήί", "ϊΐόύΑΒΓΔΕΖΗ½ΘΙ«»",
    "░▒▓│┤ΚΛΜΝ╣║╗╝ΞΟ┐", "└┴┬├─┼ΠΡ╚╔╩╦╠═╬Σ", "ΤΥΦΧΨΩαβγ┘┌█▄δε▀"] |>.run 0xE0 0x3B6 12
  |>.put 0xEC ["σςτ΄", "\xad±υφχ§ψ΅°¨ωϋΰώ■\xa0"]

def cp1006 : CodePage := latin1
  |>.put 0xA1 ["۰۱۲۳۴۵۶۷۸۹،\u061b\xad\u061f\ufe81",
    "\ufe8d\ufffd\ufe8e\ufe8f\ufe91\ufb56\ufb58\ufe93",
    "\ufe95\ufe97\ufb66\ufb68\ufe99\ufe9b\ufe9d\ufe9f",
    "\ufb7a\ufb7c\ufea1\ufea3\ufea5\ufea7\ufea9\ufb84",
    "\ufeab\ufead\ufb8c\ufeaf\ufb8a\ufeb1\ufeb3\ufeb5",
    "\ufeb7\ufeb9\ufebb\ufebd\ufebf\ufec1\ufec5\ufec9",
    "\ufeca\ufecb\ufecc\ufecd\ufece\ufecf\ufed0\ufed1",
    "\ufed3\ufed5\ufed7\ufed9\ufedb\ufb92\ufb94\ufedd",
    "\ufedf\ufee0\ufee1\ufee3\ufb9e\ufee5\ufee7\ufe85",
    "\ufeed\ufba6\ufba8\ufba9\ufbaa\ufe80\ufe89\ufe8a",
    "\ufe8b\ufef1\ufef2\ufef3\ufbb0\ufbae\ufe7c\ufe7d"]

def cp1125 : CodePage := cp866 |>.put 0xF2 ["ҐґЄєІіЇї"]

def macRoman : CodePage := ascii
  |>.put 0x80 ["ÄÅÇÉÑÖÜáàâäãåçéè", "êëíìîïñóòôöõúùûü", "†°¢£§•¶ß®©™´¨≠ÆØ", "∞±≤≥¥µ∂∑∏π∫ªºΩæø",
    "¿¡¬√ƒ≈∆«»…\xa0ÀÃÕŒœ", "–—“”‘’÷◊ÿŸ⁄€‹›ﬁﬂ", "‡·‚„‰ÂÊÁËÈÍÎÏÌÓÔ", "\uf8ffÒÚÛÙıˆ˜¯˘˙˚¸˝˛ˇ"]

def macCroatian : CodePage := ascii
  |>.put 0x80 ["ÄÅÇÉÑÖÜáàâäãåçéè", "êëíìîïñóòôöõúùûü", "†°¢£§•¶ß®Š™´¨≠ŽØ", "∞±≤≥∆µ∂∑∏š∫ªºΩžø",
    "¿¡¬√ƒ≈Ć«Č…\xa0ÀÃÕŒœ", "Đ—“”‘’÷◊\uf8ff©⁄€‹›Æ»", "–·‚„‰ÂćÁčÈÍÎÏÌÓÔ", "đÒÚÛÙıˆ˜¯πË˚¸Êæˇ"]

def macCyrillic : CodePage := cp1251 |>.run 0x80 0x410 32
  |>.put 0xA0 ["†°Ґ£§•¶І®©™Ђђ≠Ѓѓ", "∞±≤≥іµґЈЄєЇїЉљЊњ", "јЅ¬√ƒ≈∆«»…\xa0ЋћЌќѕ", "–—“”‘’÷„ЎўЏџ№Ёёя"]
  |>.put 0xFF ["€"]

def macGreek : CodePage := ascii
  |>.put 0x80 ["Ä¹²É³ÖÜ΅àâä΄¨çéè", "êë£™îï•½‰ôö¦€ùûü", "†ΓΔΘΛΞΠß®©ΣΪ§≠°·", "Α±≤≥¥ΒΕΖΗΙΚΜΦΫΨΩ",
    "άΝ¬ΟΡ≈Τ«»…\xa0ΥΧΆΈœ", "–―“”‘’÷ΉΊΌΎέήίόΏ", "ύαβψδεφγηιξκλμνο", "πώρστθωςχυζϊϋΐΰ\xad"]

def macIceland : CodePage := macRoman |>.put 0xA0 ["Ý"] |>.put 0xDC ["ÐðÞþ", "ý"]

def macLatin2 : CodePage := ascii
  |>.put 0x80 ["ÄĀāÉĄÖÜáąČäčĆćéŹ", "źĎíďĒēĖóėôöõúĚěü", "†°Ę£§•¶ß®©™ę¨≠ģĮ", "įĪ≤≥īĶ∂∑łĻļĽľĹĺŅ",
    "ņŃ¬√ńŇ∆«»…\xa0ňŐÕőŌ", "–—“”‘’÷◊ōŔŕŘ‹›řŖ", "ŗŠ‚„šŚśÁŤťÍŽžŪÓÔ", "ūŮÚůŰűŲųÝýķŻŁżĢˇ"]

def macRomanian : CodePage := macRoman |>.put 0xAE ["ĂȘ"] |>.put 0xBE ["ăș"] |>.put 0xDE ["Țț"]

def macTurkish : CodePage := macRoman |>.put 0xDA ["ĞğİıŞş"] |>.put 0xF5 ["\uf8a0"]

def macArabic : CodePage := iso8859_6 |>.clear 0x20 5 |>.clear 0x26 6 |>.clear 0x2D 3
  |>.put 0x3A ["\ufffd"] |>.clear 0x3C 3 |>.clear 0x5B 5 |>.clear 0x7B 3
  |>.put 0x80 ["Ä\xa0ÇÉÑÖÜáàâä\u06ba«çéè", "êëí…îïñó»ôö÷úùûü"] |>.put 0xA0 [" !\"#$"]
  |>.put 0xA5 ["٪"] |>.put 0xA6 ["&'()*+"]
  |>.put 0xAD ["-./",
    "\u0660\u0661\u0662\u0663\u0664\u0665\u0666\u0667\u0668\u0669:\u061b<=>\u061f", "❊"]
  |>.put 0xDB ["[\\]^_"]
  |>.put 0xF3 ["\u067e\u0679\u0686\u06d5\u06a4\u06af\u0688\u0691\x7b|\x7d\u0698\u06d2"]

def macFarsi : CodePage := macArabic |>.put 0xB0 ["۰۱۲۳۴۵۶۷۸۹"]

def hpRoman8 : CodePage := latin1
  |>.put 0xA1 ["ÀÂÈÊËÎÏ´ˋˆ¨˜ÙÛ₤", "¯Ýý°ÇçÑñ¡¿¤£¥§ƒ¢", "âêôûáéóúàèòùäëöü", "ÅîØÆåíøæÄìÖÜÉïßÔ",
    "ÁÃãÐðÍÌÓÒÕõŠšÚŸÿ", "Þþ·µ¶¾—¼½ªº«■»±\ufffd"]

def cp500 : CodePage := ascii |>.put 0x04 ["\x9c\x09\x86\x7f\x97\x8d\x8e"]
  |>.put 0x14 ["\x9d\x85\x08\x87\x18\x19\x92\x8f"] |>.put 0x20 ["\x80\x81\x82\x83\x84"]
  |>.put 0x25 ["\x0a\x17\x1b"] |>.put 0x28 ["\x88\x89\x8a\x8b\x8c"]
  |>.put 0x2D ["\x05\x06\x07", "\x90\x91\x16"] |>.put 0x33 ["\x93\x94\x95\x96"] |>.put 0x37 ["\x04"]
  |>.put 0x38 ["\x98\x99\x9a\x9b"]
  |>.put 0x3C ["\x14\x15\x9e\x1a", " \xa0âäàáãåçñ[.<(+!", "&éêëèíîïìß]$*);^", "-/ÂÄÀÁÃÅÇÑ¦,%_>?",
    "øÉÊËÈÍÎÏÌ`:#@'=\"", "Ø"] |>.run 0x81 0x61 9 |>.put 0x8A ["«»ðýþ±", "°"] |>.run 0x91 0x6A 9
  |>.put 0x9A ["ªºæ¸Æ¤", "µ~"] |>.run 0xA2 0x73 8 |>.put 0xAA ["¡¿ÐÝÞ®", "¢£¥·©§¶¼½¾¬|¯¨´×", "\x7b"]
  |>.run 0xC1 0x41 9 |>.put 0xCA ["\xadôöòóõ", "\x7d"] |>.run 0xD1 0x4A 9
  |>.put 0xDA ["¹ûüùúÿ", "\\÷"] |>.run 0xE2 0x53 8 |>.put 0xEA ["²ÔÖÒÓÕ"] |>.run 0xF0 0x30 10
  |>.put 0xFA ["³ÛÜÙÚ\x9f"]

def cp037 : CodePage := cp500 |>.put 0x4A ["¢.<(+|"] |>.put 0x5A ["!$*);¬"] |>.put 0xB0 ["^"]
  |>.put 0xBA ["[]"]

def cp273 : CodePage := cp037 |>.put 0x43 ["\x7b"] |>.put 0x4A ["Ä.<(+!"]
  |>.put 0x59 ["~Ü$*);^", "-/Â["] |>.put 0x6A ["ö"] |>.put 0x7C ["§"] |>.put 0xA1 ["ß"]
  |>.put 0xB0 ["¢£¥·©@¶¼½¾¬|‾¨´×", "ä"] |>.put 0xCC ["¦òóõ", "ü"] |>.put 0xDC ["\x7dùúÿ", "Ö"]
  |>.put 0xEC ["\\"] |>.put 0xFC ["]"]

def cp424 : CodePage := cp037 |>.put 0x41 ["\u05d0\u05d1\u05d2\u05d3\u05d4\u05d5\u05d6\u05d7\u05d8"]
  |>.put 0x51 ["\u05d9\u05da\u05db\u05dc\u05dd\u05de\u05df\u05e0\u05e1"]
  |>.put 0x62 ["\u05e2\u05e3\u05e4\u05e5\u05e6\u05e7\u05e8\u05e9"]
  |>.put 0x70 ["\ufffd\u05ea\ufffd\ufffd\xa0"] |>.clear 0x75 3 |>.put 0x78 ["‗"]
  |>.put 0x80 ["\ufffd"] |>.clear 0x8C 3 |>.clear 0x9A 3 |>.put 0x9E ["\ufffd"] |>.clear 0xAA 5
  |>.clear 0xCB 5 |>.clear 0xDB 5 |>.clear 0xEB 5 |>.clear 0xFB 4

def cp875 : CodePage := cp037
  |>.put 0x3F ["\ufffd", " ΑΒΓΔΕΖΗΘΙ[.<(+!", "&ΚΛΜΝΞΟΠΡΣ]$*);^", "-/ΤΥΦΧΨΩΪΫ|"]
  |>.put 0x70 ["¨ΆΈΉ\xa0ΊΌΎΏ"] |>.put 0x80 ["΅"] |>.put 0x8A ["αβγδεζ"] |>.put 0x9A ["ηθικλμ", "´"]
  |>.put 0xAA ["νξοπρσ", "£άέήϊίόύϋώςτυφχψ"] |>.put 0xCB ["ωΐΰ‘―"]
  |>.put 0xDA ["±½\ufffd·’¦", "\\\ufffd"] |>.put 0xEB ["§\ufffd\ufffd«¬"]
  |>.put 0xFB ["©\ufffd\x1a»"]

def cp1026 : CodePage := cp500 |>.put 0x48 ["\x7bñÇ"] |>.put 0x5A ["Ğİ"] |>.put 0x68 ["[Ñş"]
  |>.put 0x79 ["ı:ÖŞ'=Ü"] |>.put 0x8C ["\x7d`¦"] |>.put 0xA1 ["ö"] |>.put 0xAC ["]$@"]
  |>.put 0xC0 ["ç"] |>.put 0xCC ["~òóõ", "ğ"] |>.put 0xDC ["\\ùúÿ", "ü"] |>.put 0xEC ["#"]
  |>.put 0xFC ["\""]

def cp1140 : CodePage := cp037 |>.put 0x9F ["€"]

end JsonDesk.CodePage
