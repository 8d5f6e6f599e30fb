import JsonDesk.Text

set_option autoImplicit false

namespace JsonDesk.Hangul

def initials : Text := "ㄱㄲㄴㄷㄸㄹㅁㅂㅃㅅㅆㅇㅈㅉㅊㅋㅌㅍㅎ"

def finals : Text := "ㄱㄲㄳㄴㄵㄶㄷㄹㄺㄻㄼㄽㄾㄿㅀㅁㅂㅄㅅㅆㅇㅈㅊㅋㅌㅍㅎ"

/-- The letters in their own order: the consonants, and the vowels after them. -/
def firstLetter : Nat := 0x3131

def firstVowel : Nat := 0x314F

def lastLetter : Nat := 0x3163

def firstSyllable : Nat := 0xAC00

def lastSyllable : Nat := 0xD7A3

def isSyllable (c : CodePoint) : Bool := firstSyllable ≤ c.val ∧ c.val ≤ lastSyllable

/-- The numbers of the parts of a syllable.  A last part of zero is none; the others are counted
from one. -/
structure Parts where
  initial : Nat
  vowel : Nat
  final : Nat

def parts? (c : CodePoint) : Option Parts :=
  if isSyllable c then
    let n := c.val - firstSyllable
    some ⟨n / 588, n / 28 % 21, n % 28⟩
  else none

end JsonDesk.Hangul
