import JsonDesk.Text

set_option autoImplicit false

namespace JsonDesk

namespace CodePoint

def units16 (c : CodePoint) : List Nat :=
  if c.val < 0x10000 then [c.val]
  else [0xD800 + (c.val - 0x10000) / 0x400, 0xDC00 + (c.val - 0x10000) % 0x400]

end CodePoint

namespace Utf7

def digit (n : Nat) : CodePoint :=
  if n < 26 then .ofNat (0x41 + n)
  else if n < 52 then .ofNat (0x61 + (n - 26))
  else if n < 62 then .ofNat (0x30 + (n - 52))
  else if n = 62 then '+' else '/'

def isDigit (c : CodePoint) : Bool := (List.range 64).any fun n => digit n = c

def digits : (width n : Nat) → Text
  | 0, _ => []
  | w + 1, n => digit (n / Nat.pow 64 w % 64) :: digits w n

/-- The digits of a run of units; three units fill eight digits, and what is left over is filled up
with zeros. -/
def ofUnits : List Nat → Text
  | [] => []
  | [a] => digits 3 (a * 4)
  | [a, b] => digits 6 ((a * 0x10000 + b) * 16)
  | a :: b :: c :: units => digits 8 ((a * 0x10000 + b) * 0x10000 + c) ++ ofUnits units

def isDirect (c : CodePoint) : Bool :=
  decide (c.val = 9 ∨ c.val = 10 ∨ c.val = 13 ∨ (0x20 ≤ c.val ∧ c.val < 0x7E))
    && c ≠ '+' && c ≠ '\\'

/-- Writes a text; `run` is what the run that is open consists of, backwards. -/
def write : Text → (run : Option Text) → Text
  | [], none => []
  | [], some run => close run ++ "-"
  | c :: t, none =>
    if c = '+' then "+-" ++ write t none
    else if isDirect c then c :: write t none
    else '+' :: write t (some [c])
  | c :: t, some run =>
    if isDirect c then
      close run ++ (if isDigit c ∨ c = '-' then ("-" : Text) else []) ++ c :: write t none
    else write t (some (c :: run))
where
  close (run : Text) : Text := ofUnits (run.reverse.flatMap CodePoint.units16)

end Utf7

end JsonDesk
