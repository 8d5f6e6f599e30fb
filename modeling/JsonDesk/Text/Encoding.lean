import JsonDesk.Text.CodePages
import JsonDesk.Text.Punycode
import JsonDesk.Text.Switched
import JsonDesk.Text.Utf7
import JsonDesk.Text.Utf8

set_option autoImplicit false

namespace JsonDesk

inductive Encoding
  | utf8
  /-- With a byte order mark in front. -/
  | markedUtf8
  | utf7
  | utf16 (mark bigEndian : Bool)
  | utf32 (mark bigEndian : Bool)
  | page (p : CodePage)
  | wide (w : Wide)
  | switched (s : Switched)
  /-- Escape sequences for what is not printable ASCII. -/
  | escaped
  /-- Escape sequences for what is beyond Latin-1. -/
  | escapedWide
  | punycode
  /-- Names of hosts; what follows the last stop is not written. -/
  | hostName
  /-- An encoding that refuses every text. -/
  | undefined
deriving DecidableEq

namespace Encoding

def word (bigEndian : Bool) (octets n : Nat) : List UInt8 :=
  let little := (List.range octets).map fun i => UInt8.ofNat (n / Nat.pow 256 i % 256)
  if bigEndian then little.reverse else little

/-- The escape sequence of a code point, as short as its number allows. -/
def escape (c : CodePoint) : Text :=
  if c.val < 0x100 then "\\x" ++ Text.hex 2 c.val
  else if c.val < 0x10000 then "\\u" ++ Text.hex 4 c.val
  else "\\U" ++ Text.hex 8 c.val

def escapeUnprintable (c : CodePoint) : Text :=
  if c = '\\' then "\\\\"
  else if c = '\t' then "\\t"
  else if c = '\n' then "\\n"
  else if c = '\r' then "\\r"
  else if 0x20 ≤ c.val ∧ c.val < 0x7F then [c]
  else escape c

def escapeWide (c : CodePoint) : Text := if c.val < 0x100 then [c] else escape c

/-- The octets of a text, if the encoding has them for all its code points. -/
def encode? (e : Encoding) (t : Text) : Option (List UInt8) :=
  let latin (t : Text) : List UInt8 := t.map fun c => UInt8.ofNat c.val
  match e with
  | utf8 => t.utf8?
  | markedUtf8 => t.utf8?.map ([0xEF, 0xBB, 0xBF] ++ ·)
  | utf7 => some (latin (Utf7.write t none))
  | utf16 mark big =>
    if t.any CodePoint.isSurrogate then none
    else some ((if mark then word big 2 0xFEFF else [])
      ++ t.flatMap fun c => c.units16.flatMap (word big 2))
  | utf32 mark big =>
    if t.any CodePoint.isSurrogate then none
    else some ((if mark then word big 4 0xFEFF else []) ++ t.flatMap fun c => word big 4 c.val)
  | page p => t.mapM p.octet?
  | wide w => w.write? t
  | switched s => s.write? t Switched.start
  | escaped => some (latin (t.flatMap escapeUnprintable))
  | escapedWide => some (latin (t.flatMap escapeWide))
  | punycode => some (latin (Punycode.write t))
  | hostName => (HostName.write? t).map latin
  | undefined => none

inductive Meaning
  | encoding (e : Encoding)
  /-- A coding of octets by octets or of texts by texts. -/
  | transformation
deriving DecidableEq

/-- A meaning with its name and with other names for it, in lower case and with underscores between
words. -/
structure Entry where
  meaning : Meaning
  name : Text
  others : List Text

open CodePage

def entries : List Entry := [
  ⟨.encoding utf8, "utf_8", ["cp65001", "u8", "utf", "utf8", "utf8_ucs2", "utf8_ucs4"]⟩,
  ⟨.encoding markedUtf8, "utf_8_sig", []⟩,
  ⟨.encoding utf7, "utf_7", ["u7", "unicode_1_1_utf_7", "utf7"]⟩,
  ⟨.encoding (utf16 true false), "utf_16", ["u16", "utf16"]⟩,
  ⟨.encoding (utf16 false false), "utf_16_le", ["unicodelittleunmarked", "utf_16le"]⟩,
  ⟨.encoding (utf16 false true), "utf_16_be", ["unicodebigunmarked", "utf_16be"]⟩,
  ⟨.encoding (utf32 true false), "utf_32", ["u32", "utf32"]⟩,
  ⟨.encoding (utf32 false false), "utf_32_le", ["utf_32le"]⟩,
  ⟨.encoding (utf32 false true), "utf_32_be", ["utf_32be"]⟩,
  ⟨.encoding escaped, "unicode_escape", []⟩,
  ⟨.encoding escapedWide, "raw_unicode_escape", []⟩,
  ⟨.encoding punycode, "punycode", []⟩,
  ⟨.encoding hostName, "idna", []⟩,
  ⟨.encoding undefined, "undefined", []⟩,
  ⟨.encoding (page ascii), "ascii", ["646", "ansi_x3.4_1968", "ansi_x3.4_1986", "ansi_x3_4_1968",
    "cp367", "csascii", "ibm367", "iso646_us", "iso_646.irv_1991", "iso_ir_6", "us", "us_ascii"]⟩,
  ⟨.encoding (page latin1), "latin_1", ["8859", "cp819", "csisolatin1", "ibm819", "iso8859",
    "iso8859_1", "iso_8859_1", "iso_8859_1_1987", "iso_ir_100", "l1", "latin", "latin1"]⟩,
  ⟨.encoding (page latin1), "charmap", []⟩,
  ⟨.encoding (page cp1252), "cp1252", ["1252", "windows_1252"]⟩,
  ⟨.encoding (page cp1250), "cp1250", ["1250", "windows_1250"]⟩,
  ⟨.encoding (page cp1251), "cp1251", ["1251", "windows_1251"]⟩,
  ⟨.encoding (page cp1253), "cp1253", ["1253", "windows_1253"]⟩,
  ⟨.encoding (page cp1254), "cp1254", ["1254", "windows_1254"]⟩,
  ⟨.encoding (page cp1255), "cp1255", ["1255", "windows_1255"]⟩,
  ⟨.encoding (page cp1256), "cp1256", ["1256", "windows_1256"]⟩,
  ⟨.encoding (page cp1257), "cp1257", ["1257", "windows_1257"]⟩,
  ⟨.encoding (page cp1258), "cp1258", ["1258", "windows_1258"]⟩,
  ⟨.encoding (page cp874), "cp874", []⟩,
  ⟨.encoding (page cp437), "cp437", ["437", "cspc8codepage437", "ibm437"]⟩,
  ⟨.encoding (page cp720), "cp720", []⟩,
  ⟨.encoding (page cp737), "cp737", []⟩,
  ⟨.encoding (page cp775), "cp775", ["775", "cspc775baltic", "ibm775"]⟩,
  ⟨.encoding (page cp850), "cp850", ["850", "cspc850multilingual", "ibm850"]⟩,
  ⟨.encoding (page cp852), "cp852", ["852", "cspcp852", "ibm852"]⟩,
  ⟨.encoding (page cp855), "cp855", ["855", "csibm855", "ibm855"]⟩,
  ⟨.encoding (page cp856), "cp856", []⟩,
  ⟨.encoding (page cp857), "cp857", ["857", "csibm857", "ibm857"]⟩,
  ⟨.encoding (page cp858), "cp858", ["858", "csibm858", "ibm858"]⟩,
  ⟨.encoding (page cp860), "cp860", ["860", "csibm860", "ibm860"]⟩,
  ⟨.encoding (page cp861), "cp861", ["861", "cp_is", "csibm861", "ibm861"]⟩,
  ⟨.encoding (page cp862), "cp862", ["862", "cspc862latinhebrew", "ibm862"]⟩,
  ⟨.encoding (page cp863), "cp863", ["863", "csibm863", "ibm863"]⟩,
  ⟨.encoding (page cp864), "cp864", ["864", "csibm864", "ibm864"]⟩,
  ⟨.encoding (page cp865), "cp865", ["865", "csibm865", "ibm865"]⟩,
  ⟨.encoding (page cp866), "cp866", ["866", "csibm866", "ibm866"]⟩,
  ⟨.encoding (page cp869), "cp869", ["869", "cp_gr", "csibm869", "ibm869"]⟩,
  ⟨.encoding (page cp1006), "cp1006", []⟩,
  ⟨.encoding (page cp1125), "cp1125", ["1125", "cp866u", "ibm1125", "ruscii"]⟩,
  ⟨.encoding (page cp500), "cp500", ["500", "csibm500", "ebcdic_cp_be", "ebcdic_cp_ch", "ibm500"]⟩,
  ⟨.encoding (page cp037), "cp037", ["037", "csibm037", "ebcdic_cp_ca", "ebcdic_cp_nl",
    "ebcdic_cp_us", "ebcdic_cp_wt", "ibm037", "ibm039"]⟩,
  ⟨.encoding (page cp273), "cp273", ["273", "csibm273", "ibm273"]⟩,
  ⟨.encoding (page cp424), "cp424", ["424", "csibm424", "ebcdic_cp_he", "ibm424"]⟩,
  ⟨.encoding (page cp875), "cp875", []⟩,
  ⟨.encoding (page cp1026), "cp1026", ["1026", "csibm1026", "ibm1026"]⟩,
  ⟨.encoding (page cp1140), "cp1140", ["1140", "ibm1140"]⟩,
  ⟨.encoding (page hpRoman8), "hp_roman8", ["cp1051", "ibm1051", "r8", "roman8"]⟩,
  ⟨.encoding (page iso8859_2), "iso8859_2", ["csisolatin2", "iso_8859_2", "iso_8859_2_1987",
    "iso_ir_101", "l2", "latin2"]⟩,
  ⟨.encoding (page iso8859_3), "iso8859_3", ["csisolatin3", "iso_8859_3", "iso_8859_3_1988",
    "iso_ir_109", "l3", "latin3"]⟩,
  ⟨.encoding (page iso8859_4), "iso8859_4", ["csisolatin4", "iso_8859_4", "iso_8859_4_1988",
    "iso_ir_110", "l4", "latin4"]⟩,
  ⟨.encoding (page iso8859_5), "iso8859_5", ["csisolatincyrillic", "cyrillic", "iso_8859_5",
    "iso_8859_5_1988", "iso_ir_144"]⟩,
  ⟨.encoding (page iso8859_6), "iso8859_6", ["arabic", "asmo_708", "csisolatinarabic",
    "ecma_114", "iso_8859_6", "iso_8859_6_1987", "iso_ir_127"]⟩,
  ⟨.encoding (page iso8859_7), "iso8859_7", ["csisolatingreek", "ecma_118", "elot_928", "greek",
    "greek8", "iso_8859_7", "iso_8859_7_1987", "iso_ir_126"]⟩,
  ⟨.encoding (page iso8859_8), "iso8859_8", ["csisolatinhebrew", "hebrew", "iso_8859_8",
    "iso_8859_8_1988", "iso_ir_138"]⟩,
  ⟨.encoding (page iso8859_9), "iso8859_9", ["csisolatin5", "iso_8859_9", "iso_8859_9_1989",
    "iso_ir_148", "l5", "latin5"]⟩,
  ⟨.encoding (page iso8859_10), "iso8859_10", ["csisolatin6", "iso_8859_10", "iso_8859_10_1992",
    "iso_ir_157", "l6", "latin6"]⟩,
  ⟨.encoding (page iso8859_11), "iso8859_11", ["iso_8859_11", "iso_8859_11_2001", "thai"]⟩,
  ⟨.encoding (page iso8859_13), "iso8859_13", ["iso_8859_13", "l7", "latin7"]⟩,
  ⟨.encoding (page iso8859_14), "iso8859_14", ["iso_8859_14", "iso_8859_14_1998", "iso_celtic",
    "iso_ir_199", "l8", "latin8"]⟩,
  ⟨.encoding (page iso8859_15), "iso8859_15", ["iso_8859_15", "l9", "latin9"]⟩,
  ⟨.encoding (page iso8859_16), "iso8859_16", ["iso_8859_16", "iso_8859_16_2001", "iso_ir_226",
    "l10", "latin10"]⟩,
  ⟨.encoding (page koi8R), "koi8_r", ["cskoi8r"]⟩,
  ⟨.encoding (page koi8U), "koi8_u", []⟩,
  ⟨.encoding (page koi8T), "koi8_t", []⟩,
  ⟨.encoding (page kz1048), "kz1048", ["kz_1048", "rk1048", "strk1048_2002"]⟩,
  ⟨.encoding (page macRoman), "mac_roman", ["macintosh", "macroman"]⟩,
  ⟨.encoding (page macCroatian), "mac_croatian", []⟩,
  ⟨.encoding (page macCyrillic), "mac_cyrillic", ["maccyrillic"]⟩,
  ⟨.encoding (page macGreek), "mac_greek", ["macgreek"]⟩,
  ⟨.encoding (page macIceland), "mac_iceland", ["maciceland"]⟩,
  ⟨.encoding (page macLatin2), "mac_latin2", ["mac_centeuro", "maccentraleurope", "maclatin2"]⟩,
  ⟨.encoding (page macRomanian), "mac_romanian", []⟩,
  ⟨.encoding (page macTurkish), "mac_turkish", ["macturkish"]⟩,
  ⟨.encoding (page macArabic), "mac_arabic", []⟩,
  ⟨.encoding (page macFarsi), "mac_farsi", []⟩,
  ⟨.encoding (page palmos), "palmos", []⟩,
  ⟨.encoding (page ptcp154), "ptcp154", ["cp154", "csptcp154", "cyrillic_asian", "pt154"]⟩,
  ⟨.encoding (page tis620), "tis_620", ["iso_ir_166", "tis620", "tis_620_0", "tis_620_2529_0",
    "tis_620_2529_1"]⟩,
  ⟨.encoding (wide .shiftJis), "shift_jis", ["csshiftjis", "s_jis", "shiftjis", "sjis",
    "x_mac_japanese"]⟩,
  ⟨.encoding (wide .shiftJisVendor), "cp932", ["932", "ms932", "ms_kanji", "mskanji"]⟩,
  ⟨.encoding (wide .shiftJis2000), "shift_jisx0213", ["s_jisx0213", "shiftjisx0213", "sjisx0213"]⟩,
  ⟨.encoding (wide .shiftJis2004), "shift_jis_2004", ["s_jis_2004", "shiftjis2004", "sjis_2004"]⟩,
  ⟨.encoding (wide .eucJapan), "euc_jp", ["eucjp", "u_jis", "ujis"]⟩,
  ⟨.encoding (wide .eucJapan2000), "euc_jisx0213", ["eucjisx0213"]⟩,
  ⟨.encoding (wide .eucJapan2004), "euc_jis_2004", ["euc_jis2004", "eucjis2004", "jisx0213"]⟩,
  ⟨.encoding (wide .eucKorea), "euc_kr", ["euckr", "korean", "ks_c_5601", "ks_c_5601_1987",
    "ks_x_1001", "ksc5601", "ksx1001", "x_mac_korean"]⟩,
  ⟨.encoding (wide .unifiedHangul), "cp949", ["949", "ms949", "uhc"]⟩,
  ⟨.encoding (wide .johab), "johab", ["cp1361", "ms1361"]⟩,
  ⟨.encoding (wide .eucChina), "gb2312", ["chinese", "csiso58gb231280", "euc_cn", "euccn",
    "eucgb2312_cn", "gb2312_1980", "gb2312_80", "iso_ir_58", "x_mac_simp_chinese"]⟩,
  ⟨.encoding (wide .gbk), "gbk", ["936", "cp936", "ms936"]⟩,
  ⟨.encoding (wide .gb18030), "gb18030", ["gb18030_2000"]⟩,
  ⟨.encoding (wide .big5), "big5", ["big5_tw", "csbig5", "x_mac_trad_chinese"]⟩,
  ⟨.encoding (wide .big5Vendor), "cp950", ["950", "ms950"]⟩,
  ⟨.encoding (wide .big5HongKong), "big5hkscs", ["big5_hkscs", "hkscs"]⟩,
  ⟨.encoding (switched .japan), "iso2022_jp", ["csiso2022jp", "iso2022jp", "iso_2022_jp"]⟩,
  ⟨.encoding (switched .japan1), "iso2022_jp_1", ["iso2022jp_1", "iso_2022_jp_1"]⟩,
  ⟨.encoding (switched .japan2), "iso2022_jp_2", ["iso2022jp_2", "iso_2022_jp_2"]⟩,
  ⟨.encoding (switched .japan3), "iso2022_jp_3", ["iso2022jp_3", "iso_2022_jp_3"]⟩,
  ⟨.encoding (switched .japan2004), "iso2022_jp_2004", ["iso2022jp_2004", "iso_2022_jp_2004"]⟩,
  ⟨.encoding (switched .japanExtended), "iso2022_jp_ext", ["iso2022jp_ext", "iso_2022_jp_ext"]⟩,
  ⟨.encoding (switched .korea), "iso2022_kr", ["csiso2022kr", "iso2022kr", "iso_2022_kr"]⟩,
  ⟨.encoding (switched .tilde), "hz", ["hz_gb", "hz_gb_2312", "hzgb"]⟩,
  ⟨.transformation, "base64_codec", ["base64", "base_64"]⟩,
  ⟨.transformation, "bz2_codec", ["bz2"]⟩,
  ⟨.transformation, "hex_codec", ["hex"]⟩,
  ⟨.transformation, "quopri_codec", ["quopri", "quoted_printable", "quotedprintable"]⟩,
  ⟨.transformation, "rot_13", ["rot13"]⟩,
  ⟨.transformation, "uu_codec", ["uu"]⟩,
  ⟨.transformation, "zlib_codec", ["zip", "zlib"]⟩]

/-- A name in lower case, with one underscore for each run of signs between letters, digits and
full stops. -/
def simplify (t : Text) : Text := go t false []
where
  go : Text → (gap : Bool) → Text → Text
  | [], _, done => done.reverse
  | c :: t, gap, done =>
    let n := c.val
    if 0x41 ≤ n ∧ n ≤ 0x5A then put t gap (CodePoint.ofNat (n + 0x20)) done
    else if (0x30 ≤ n ∧ n ≤ 0x39) ∨ (0x61 ≤ n ∧ n ≤ 0x7A) ∨ n = 0x2E then put t gap c done
    else go t true done
  put (t : Text) (gap : Bool) (c : CodePoint) (done : Text) : Text :=
    go t false (c :: if gap ∧ done ≠ [] then '_' :: done else done)

def withoutStops (t : Text) : Text := t.map fun c => if c.val = 0x2E then '_' else c

def surroundings : Text := "locale"

/-- What a name stands for.  The other names, which come first, may be given with full stops in
place of underscores. -/
def find? (t : Text) : Option Meaning :=
  if t = surroundings then some (.encoding utf8)
  else
    let name := simplify t
    let entry? :=
      match entries.find? fun e => e.others.any fun n => n = name ∨ n = withoutStops name with
      | some e => some e
      | none => entries.find? fun e => e.name = name
    entry?.map (·.meaning)

end Encoding

end JsonDesk
