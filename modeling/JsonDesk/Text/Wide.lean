import JsonDesk.Text.Hangul
import JsonDesk.Text.Tables.Editions
import JsonDesk.Text.Tables.Korean
import JsonDesk.Text.Tables.Traditional

set_option autoImplicit false

namespace JsonDesk

inductive Wide
  | shiftJis | shiftJisVendor | shiftJis2000 | shiftJis2004
  | eucJapan | eucJapan2000 | eucJapan2004
  | eucKorea | unifiedHangul | johab
  | eucChina | gbk | gb18030
  | big5 | big5Vendor | big5HongKong
deriving DecidableEq

namespace Wide

def octets (ns : List Nat) : List UInt8 := ns.map UInt8.ofNat

def ascii? (c : CodePoint) : Option (List UInt8) :=
  if c.val < 0x80 then some (octets [c.val]) else none

/-- The signs for currency and lines that the Japanese variant of ASCII has in places of its own. -/
def roman? (c : CodePoint) : Option Nat :=
  if c.val = 0xA5 then some 0x5C else if c.val = 0x203E then some 0x7E else none

def halfKana? (c : CodePoint) : Option Nat :=
  if 0xFF61 ≤ c.val ∧ c.val ≤ 0xFF9F then some (c.val - 0xFEC0) else none

def pairOf (offset place : Nat) : List UInt8 :=
  octets [offset + place / 94, offset + place % 94]

def euc (place : Nat) : List UInt8 := pairOf 0xA1 place

def shifted (place : Nat) : List UInt8 :=
  let row := place / 94
  let cell := place % 94 + 94 * (row % 2)
  octets [row / 2 + (if row < 62 then 0x81 else 0xC1), cell + if cell < 0x3F then 0x40 else 0x41]

/-- The rows of the second plane that have characters, in the order of their leading octets. -/
def secondRows : List Nat := [1, 8, 3, 4, 5, 12, 13, 14, 15] ++ (List.range 17).map (· + 78)

/-- The octets of a place in the second plane, whose rows follow those of the first one. -/
def shiftedSecond? (place : Nat) : Option (List UInt8) :=
  (secondRows.idxOf? (place / 94 + 1)).map fun i => shifted ((94 + i) * 94 + place % 94)

def vendorPrivate? (c : CodePoint) : Option Nat :=
  if 0xE000 ≤ c.val ∧ c.val < 0xE758 then some (94 * 94 + (c.val - 0xE000)) else none

def vendorSigns? (c : CodePoint) : Option Nat :=
  if c.val = 0x80 then some 0x80
  else if c.val = 0xF8F0 then some 0xA0
  else if 0xF8F1 ≤ c.val ∧ c.val ≤ 0xF8F3 then some (c.val - 0xF8F1 + 0xFD)
  else none

def single (n : Nat) : List UInt8 := octets [n]

def eucJapan? (c : CodePoint) : Option (List UInt8) :=
  ((roman? c).map single).or
    (((halfKana? c).map fun n => octets [0x8E, n]).or
      (((Table.jisX0208.place? c).map euc).or
        ((Table.jisX0212.place? c).map fun p => 0x8F :: euc p)))

/-- Both planes, and JIS X 0212 for what neither of them has.  The tilde of full width takes the
place of the narrow one. -/
def eucPlanes? (first second : Table) (c : CodePoint) : Option (List UInt8) :=
  if c.val = 0xFF5E then some (euc 111)
  else
    ((halfKana? c).map fun n => octets [0x8E, n]).or
      (((first.place? c).map euc).or
        (((second.place? c).or (Table.jisX0212.place? c)).map fun p => 0x8F :: euc p))

/-- Backslash and tilde give way to the signs of the Japanese variant of ASCII, and stand among the
signs of full width. -/
def shiftedPlanes? (first second : Table) (c : CodePoint) : Option (List UInt8) :=
  if c.val = 0x5C then some (shifted 31)
  else if c.val = 0x7E then some (shifted 111)
  else if c.val = 0xFF3C then none
  else (ascii? c).or
    ((((roman? c).or (halfKana? c)).map single).or
      (((first.place? c).map shifted).or ((second.place? c).bind shiftedSecond?)))

def rareSyllables (c : CodePoint) : Nat :=
  (c.val - Hangul.firstSyllable)
    - Table.ksX1001.count fun d => Hangul.isSyllable d && decide (d.val < c.val)

/-- A trailing octet among Latin letters of either case and, behind them, all higher octets. -/
def letterOctet (n : Nat) : Nat :=
  if n < 26 then 0x41 + n else if n < 52 then 0x61 + (n - 26) else 0x81 + (n - 52)

/-- A syllable that is not in the Korean set, in places that the set leaves free. -/
def rareSyllable? (c : CodePoint) : Option (List UInt8) :=
  if Hangul.isSyllable c then
    let n := rareSyllables c
    if n < 32 * 178 then some (octets [0x81 + n / 178, letterOctet (n % 178)])
    else
      let n := n - 32 * 178
      some (octets [0xA1 + n / 84, letterOctet (n % 84)])
  else none

def koreanLetter (n : Nat) : List UInt8 := octets [0xA4, 0xA1 + (n - Hangul.firstLetter)]

def filler : Nat := 0x3164

def speltSyllable? (c : CodePoint) : Option (List UInt8) :=
  (Hangul.parts? c).map fun s =>
    let letter (ls : Text) (i : Nat) : Nat := (ls[i]?.map (·.val)).getD filler
    koreanLetter filler ++ koreanLetter (letter Hangul.initials s.initial)
      ++ koreanLetter (Hangul.firstVowel + s.vowel)
      ++ koreanLetter (if s.final = 0 then filler else letter Hangul.finals (s.final - 1))

def johabOf (initial vowel final : Nat) : List UInt8 :=
  let n := 0x8000 + initial * 0x400 + vowel * 0x20 + final
  octets [n / 0x100, n % 0x100]

/-- The numbers of the parts, which leave some numbers out. -/
def johabVowel (n : Nat) : Nat := if n < 5 then n + 3 else if n < 11 then n + 5
  else if n < 17 then n + 7 else n + 9

def johabFinal (n : Nat) : Nat := if n < 17 then n + 1 else n + 2

def johabLetter? (c : CodePoint) : Option (List UInt8) :=
  if Hangul.firstVowel ≤ c.val ∧ c.val ≤ Hangul.lastLetter then
    some (johabOf 1 (johabVowel (c.val - Hangul.firstVowel)) 1)
  else
    ((Hangul.initials.idxOf? c).map fun i => johabOf (i + 2) 2 1).or
      ((Hangul.finals.idxOf? c).map fun i => johabOf 1 2 (johabFinal (i + 1)))

def johabSign (place : Nat) : List UInt8 :=
  let row := place / 94
  let line := if row < 41 then row + 0x1B2 else row + 0x197
  let cell := place % 94 + 94 * (line % 2)
  octets [line / 2, cell + if cell < 0x4E then 0x31 else 0x43]

def johab? (c : CodePoint) : Option (List UInt8) :=
  match Hangul.parts? c with
  | some s => some (johabOf (s.initial + 2) (johabVowel s.vowel) (johabFinal s.final))
  | none => (johabLetter? c).or ((Table.ksX1001.place? c).map johabSign)

/-- A place among rows of one hundred and ninety, from `0x40` on but for `0x7F`. -/
def gbkPlace (place : Nat) : List UInt8 :=
  let cell := place % 190
  octets [0x81 + place / 190, cell + if cell < 0x3F then 0x40 else 0x41]

def isHanzi (c : CodePoint) : Bool := 0x4E00 ≤ c.val ∧ c.val ≤ 0x9FA5

/-- Compatibility ideographs that stand behind all others. -/
def compatibilityHanzi : Text :=
  [0xF92C, 0xF979, 0xF995, 0xF9E7, 0xF9F1, 0xFA0C, 0xFA0D, 0xFA0E, 0xFA0F, 0xFA11, 0xFA13,
    0xFA14, 0xFA18, 0xFA1F, 0xFA20, 0xFA21, 0xFA23, 0xFA24, 0xFA27, 0xFA28, 0xFA29].map .ofNat

/-- The Hanzi that are not in the set of simplified characters, in their own order: first in rows of
one hundred and ninety, then in the left halves of the rows of the set. -/
def rareHanzi? (c : CodePoint) : Option (List UInt8) :=
  let number? : Option Nat :=
    if isHanzi c then
      some ((c.val - 0x4E00) - Table.gb2312.count fun d => isHanzi d && decide (d.val < c.val))
    else (compatibilityHanzi.idxOf? c).map (· + 14139)
  number?.map fun n =>
    if n < 6080 then gbkPlace n
    else gbkPlace ((0x29 + (n - 6080) / 96) * 190 + (n - 6080) % 96)

def gbk? (c : CodePoint) : Option (List UInt8) :=
  ((Table.gb2312.place? c).map euc).or
    (((Table.gbkSigns.place? c).map gbkPlace).or (rareHanzi? c))

def fourOctets (n : Nat) : List UInt8 :=
  octets [0x81 + n / 12600, 0x30 + n / 1260 % 10, 0x81 + n / 10 % 126, 0x30 + n % 10]

def shorter (c : CodePoint) : Nat :=
  let earlier (t : Table) : Nat := t.count fun d => !isHanzi d && decide (d.val < c.val)
  min (c.val - 0x4E00) 20902 + earlier Table.gb2312 + earlier Table.gbkSigns
    + earlier Table.gb18030Signs + earlier Table.gb18030Private
    + compatibilityHanzi.countP fun d => decide (d.val < c.val)

/-- Every code point that is no surrogate has octets: four of them, in the order of the code points,
if there are no two. -/
def gb18030? (c : CodePoint) : Option (List UInt8) :=
  if c.isSurrogate then none
  else
    (gbk? c).or
      (some (match (Table.gb18030Signs.before Table.gb18030Private).place? c with
        | some p => gbkPlace p
        | none =>
          if 0x10000 ≤ c.val then fourOctets (189000 + (c.val - 0x10000))
          else fourOctets (c.val - 0x80 - shorter c - if 0xE000 ≤ c.val then 0x800 else 0)))

def big5Place (place : Nat) : List UInt8 :=
  let cell := place % 157
  octets [0x81 + place / 157, cell + if cell < 0x3F then 0x40 else 0x62]

def octets? (w : Wide) (c : CodePoint) : Option (List UInt8) :=
  match w with
  | shiftJis =>
    (ascii? c).or ((((roman? c).or (halfKana? c)).map single).or
      ((Table.jisX0208.place? c).map shifted))
  | shiftJisVendor =>
    (ascii? c).or ((((vendorSigns? c).or (halfKana? c)).map single).or
      (((vendorPrivate? c).or ((Table.vendorKanji.before Table.jisX0208).place? c)).map shifted))
  | shiftJis2000 => shiftedPlanes? Table.jisX0213First2000 Table.jisX0213Second2000 c
  | shiftJis2004 => shiftedPlanes? Table.jisX0213First2004 Table.jisX0213Second2004 c
  | eucJapan => (ascii? c).or (eucJapan? c)
  | eucJapan2000 =>
    if Table.isNewIn2004 c then none
    else (ascii? c).or (eucPlanes? Table.jisX0213First2000 Table.jisX0213Second2000 c)
  | eucJapan2004 =>
    (ascii? c).or (eucPlanes? Table.jisX0213First2004 Table.jisX0213Second2004 c)
  | eucKorea => (ascii? c).or (((Table.ksX1001.place? c).map euc).or (speltSyllable? c))
  | unifiedHangul => (ascii? c).or (((Table.ksX1001.place? c).map euc).or (rareSyllable? c))
  | johab => (ascii? c).or (johab? c)
  | eucChina => (ascii? c).or (((Table.gb2312.before Table.gb2312Signs).place? c).map euc)
  | gbk => (ascii? c).or (gbk? c)
  | gb18030 => (ascii? c).or (gb18030? c)
  | big5 => (ascii? c).or ((Table.big5.place? c).map big5Place)
  | big5Vendor => (ascii? c).or (((Table.vendorBig5.before Table.big5).place? c).map big5Place)
  | big5HongKong => (ascii? c).or (((Table.hongKong.before Table.big5).place? c).map big5Place)

/-- Whether a character may have octets together with the next one. -/
def waits (w : Wide) (c : CodePoint) : Bool :=
  match w with
  | shiftJis2000 | shiftJis2004 | eucJapan2000 | eucJapan2004 => Table.startsPair c
  | big5HongKong => c.val = 0xCA ∨ c.val = 0xEA
  | _ => false

def joined? (w : Wide) (c d : CodePoint) : Option (List UInt8) :=
  match w with
  | shiftJis2000 | shiftJis2004 => (Table.pairPlace? c d).map shifted
  | eucJapan2000 | eucJapan2004 => (Table.pairPlace? c d).map euc
  | big5HongKong =>
    let mark := d.val % 0x10000
    let last := if c.val = 0xCA then 0x62 else 0xA3
    if mark = 0x304 then some (octets [0x88, last])
    else if mark = 0x30C then some (octets [0x88, last + 2])
    else none
  | _ => none

/-- The octets of a text, if all its characters have any.  A last character that waits for the next
one is not written. -/
def write? (w : Wide) : Text → Option (List UInt8)
  | [] => some []
  | [c] => if w.waits c then some [] else w.octets? c
  | c :: d :: t =>
    match (if w.waits c then w.joined? c d else none) with
    | some pair => (write? w t).map (pair ++ ·)
    | none => (w.octets? c).bind fun own => (write? w (d :: t)).map (own ++ ·)

end Wide

end JsonDesk
