import JsonDesk.Text.Tables.Japanese
import JsonDesk.Text.Tables.Simplified

set_option autoImplicit false

namespace JsonDesk.Table

def jisX0213First2000 : Table := jisX0208.before jisX0213Signs

def jisX0213First2004 : Table := jisX0213First2000.before jisX0213Added

def jisX0213Second2000 : Table := jisX0213Kanji.before ⟨[.rows 0x21E2 ["鬝"]]⟩

def jisX0213Second2004 : Table := jisX0213Kanji.before ⟨[.rows 0x21E2 ["鬜"]]⟩

def isNewIn2004 (c : CodePoint) : Bool :=
  (jisX0213Added.place? c).isSome || ((jisX0213Second2004.place? c).isSome
    && (jisX0213Second2000.place? c).isNone)

/-- Characters that have a place in the first plane together with the mark behind them. -/
structure Pair where
  base : Nat
  mark : Nat
  place : Nat

def jisX0213Pairs : List Pair := [
  ⟨0x304B, 0x309A, 0x170⟩, ⟨0x304D, 0x309A, 0x171⟩, ⟨0x304F, 0x309A, 0x172⟩,
  ⟨0x3051, 0x309A, 0x173⟩, ⟨0x3053, 0x309A, 0x174⟩, ⟨0x30AB, 0x309A, 0x1CE⟩,
  ⟨0x30AD, 0x309A, 0x1CF⟩, ⟨0x30AF, 0x309A, 0x1D0⟩, ⟨0x30B1, 0x309A, 0x1D1⟩,
  ⟨0x30B3, 0x309A, 0x1D2⟩, ⟨0x30BB, 0x309A, 0x1D3⟩, ⟨0x30C4, 0x309A, 0x1D4⟩,
  ⟨0x30C8, 0x309A, 0x1D5⟩, ⟨0x31F7, 0x309A, 0x22D⟩, ⟨0xE6, 0x300, 0x3CF⟩, ⟨0x254, 0x300, 0x3D3⟩,
  ⟨0x254, 0x301, 0x3D4⟩, ⟨0x28C, 0x300, 0x3D5⟩, ⟨0x28C, 0x301, 0x3D6⟩, ⟨0x259, 0x300, 0x3D7⟩,
  ⟨0x259, 0x301, 0x3D8⟩, ⟨0x25A, 0x300, 0x3D9⟩, ⟨0x25A, 0x301, 0x3DA⟩, ⟨0x2E9, 0x2E5, 0x3F0⟩,
  ⟨0x2E5, 0x2E9, 0x3F1⟩]

/-- Whether a character may have a place together with the next one. -/
def startsPair (c : CodePoint) : Bool := jisX0213Pairs.any fun p => p.base = c.val

/-- The place of two characters together.  Of the second one the low sixteen bits count, and zero
stands for no mark at all. -/
def pairPlace? (c d : CodePoint) : Option Nat :=
  let mark := d.val % 0x10000
  if mark = 0 ∧ startsPair c then jisX0213First2004.place? c
  else (jisX0213Pairs.find? fun p => p.base = c.val ∧ p.mark = mark).map (·.place)

/-- The middle dot and the dash of the set of simplified characters. -/
def gb2312Signs : Table := ⟨[.rows 3 ["・"], .rows 9 ["―"]]⟩

/-- The code points for private use, which fill the rows and places left over. -/
def gb18030Private : Table :=
  ⟨((List.range 6).map fun i => .run (7886 + 190 * i) (0xE000 + 94 * i) 94)
    ++ ((List.range 7).map fun i => .run (22706 + 190 * i) (0xE234 + 94 * i) 94)
    ++ ((List.range 7).map fun i => .run (6080 + 190 * i) (0xE4C6 + 96 * i) 96)
    ++ [.run 0x18E8 0xE766 6, .run 0x1921 0xE76D 1, .run 0x192C 0xE76E 2, .run 0x193A 0xE770 2,
      .run 0x1AAD 0xE772 11, .run 0x1B6E 0xE77D 8, .run 0x1BEE 0xE785 8, .run 0x1C0E 0xE78D 7,
      .run 0x1C21 0xE794 2, .run 0x1C28 0xE796 1, .run 0x1C2B 0xE797 9, .run 0x1CB5 0xE7A0 15,
      .run 0x1CE5 0xE7AF 13, .run 0x1D47 0xE7BC 11, .run 0x1D6D 0xE7C7 1, .run 0x1D72 0xE7C9 4,
      .run 0x1D9B 0xE7CD 21, .run 0x1DC8 0xE7E2 1, .run 0x1DCB 0xE7E3 1, .run 0x1DCD 0xE7E4 3,
      .run 0x1E06 0xE7F4 13, .run 0x1E5F 0xE801 15, .run 0x408D 0xE810 5, .run 0x5CD7 0xE816 3,
      .run 0x5CDF 0xE81E 1, .run 0x5CE7 0xE826 1, .run 0x5CEC 0xE82B 2, .run 0x5CF2 0xE831 2,
      .run 0x5CFC 0xE83B 1, .run 0x5D04 0xE843 1, .run 0x5D15 0xE854 2, .run 0x5D25 0xE864 1]⟩

end JsonDesk.Table
