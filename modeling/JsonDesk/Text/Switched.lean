import JsonDesk.Text.Wide

/-!
Encodings in seven bits that switch from one set of characters to another.  What is in force at the
end of a text stays in force.
-/

set_option autoImplicit false

namespace JsonDesk

inductive CharacterSet
  | roman | halfKana | jisX0208 | jisX0212 | ksX1001 | gb2312
  | first2000 | first2004 | second2000 | second2004
deriving DecidableEq

namespace CharacterSet

def code (place : Nat) : List UInt8 := Wide.pairOf 0x21 place

def octets? (s : CharacterSet) (c : CodePoint) : Option (List UInt8) :=
  match s with
  | roman => (Wide.roman? c).map Wide.single
  | halfKana => (Wide.halfKana? c).map fun n => Wide.single (n - 0x80)
  | jisX0208 => (Table.jisX0208.place? c).map code
  | jisX0212 => (Table.jisX0212.place? c).map code
  | ksX1001 => (Table.ksX1001.place? c).map code
  | gb2312 => ((Table.gb2312.before Table.gb2312Signs).place? c).map code
  | first2000 => (Table.jisX0213First2000.place? c).map code
  | first2004 => (Table.jisX0213First2004.place? c).map code
  | second2000 => (Table.jisX0213Second2000.place? c).map code
  | second2004 => (Table.jisX0213Second2004.place? c).map code

/-- What an escape sequence for the set consists of behind the escape character. -/
def mark : CharacterSet → Text
  | roman => "(J"
  | halfKana => "(I"
  | jisX0208 => "$B"
  | jisX0212 => "$(D"
  | ksX1001 => "$(C"
  | gb2312 => "$(A"
  | first2000 => "$(O"
  | first2004 => "$(Q"
  | second2000 | second2004 => "$(P"

def escapeOf (mark : Text) : List UInt8 := 0x1B :: mark.map fun c => UInt8.ofNat c.val

def escape : Option CharacterSet → List UInt8
  | some s => escapeOf s.mark
  | none => escapeOf "(B"

end CharacterSet

inductive Switched
  | japan | japan1 | japan2 | japan3 | japan2004 | japanExtended
  | korea
  /-- Pairs of braces behind tildes enclose the characters of GB 2312. -/
  | tilde
deriving DecidableEq

namespace Switched

open CharacterSet

/-- The sets of an encoding; the first one that has a character is used for it. -/
def sets : Switched → List CharacterSet
  | japan => [jisX0208, roman]
  | japan1 => [jisX0208, jisX0212, roman]
  | japan2 => [jisX0208, jisX0212, ksX1001, gb2312, roman]
  | japan3 => [jisX0208, first2000, second2000]
  | japan2004 => [jisX0208, first2004, second2004]
  | japanExtended => [jisX0208, jisX0212, roman, halfKana]
  | korea => [ksX1001]
  | tilde => [gb2312]

def pairSet? : Switched → Option CharacterSet
  | japan3 => some first2000
  | japan2004 => some first2004
  | _ => none

def find? (s : Switched) (c : CodePoint) : Option (CharacterSet × List UInt8) :=
  s.sets.findSome? fun set => (set.octets? c).map fun own => (set, own)

def joined? (s : Switched) (c d : CodePoint) : Option (CharacterSet × List UInt8) :=
  match s.pairSet? with
  | some set =>
    if Table.startsPair c then (Table.pairPlace? c d).map fun p => (set, code p) else none
  | none => none

/-- Whether a character may have octets together with the next one. -/
def waits (s : Switched) (c : CodePoint) : Bool := s.pairSet?.isSome && Table.startsPair c

/-- The set in force, if it is not ASCII, and whether the set of Korea has been announced. -/
structure State where
  set : Option CharacterSet
  announced : Bool

def switch (s : Switched) (state : State) (set : Option CharacterSet) : List UInt8 :=
  match s with
  | korea =>
    (if set.isSome ∧ !state.announced then escapeOf "$)C" else [])
      ++ if state.set = set then [] else if set.isSome then [0x0E] else [0x0F]
  | tilde =>
    if state.set = set then [] else if set.isSome then [0x7E, 0x7B] else [0x7E, 0x7D]
  | _ => if state.set = set then [] else escape set

def plain (s : Switched) (c : CodePoint) : List UInt8 :=
  let own := UInt8.ofNat c.val
  if s = tilde ∧ own = 0x7E then [own, own] else [own]

/-- The octets of a text, if all its characters have any.  A last character that waits for the next
one is not written. -/
def write? (s : Switched) : Text → State → Option (List UInt8)
  | [], _ => some []
  | c :: t, state =>
    if c.val < 0x80 then
      (write? s t { state with set := none }).map fun rest =>
        s.switch state none ++ s.plain c ++ rest
    else
      let put (set : CharacterSet) (own : List UInt8) (rest? : State → Option (List UInt8)) :=
        (rest? ⟨some set, true⟩).map fun rest => s.switch state (some set) ++ own ++ rest
      match t with
      | [] => if s.waits c then some [] else (s.find? c).bind fun f => put f.1 f.2 (write? s [])
      | d :: u =>
        match s.joined? c d with
        | some f => put f.1 f.2 (write? s u)
        | none => (s.find? c).bind fun f => put f.1 f.2 (write? s (d :: u))

def start : State := ⟨none, false⟩

end Switched

end JsonDesk
