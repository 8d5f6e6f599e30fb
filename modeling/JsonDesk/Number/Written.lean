import JsonDesk.Text
import JsonDesk.Number.Shortest

set_option autoImplicit false

namespace JsonDesk

namespace Text

def zeros (n : Nat) : Text := List.replicate n '0'

def ofNatPadded (width n : Nat) : Text :=
  let digits := ofNat n
  zeros (width - digits.length) ++ digits

/-- Decimal digits of a number in groups of three, with a separator between groups. -/
def grouped (sep : CodePoint) (n : Nat) : Text := (go (ofNat n).reverse).reverse
where
  go : Text → Text
  | a :: b :: c :: rest@(_ :: _) => a :: b :: c :: sep :: go rest
  | rest => rest

end Text

namespace Decimal

def leading (d : Decimal) : Int := d.exponent + ((Text.ofNat d.digits).length : Int) - 1

/-- Exponents have a sign and at least two digits. -/
def exponentText (e : Int) : Text :=
  "e" ++ (if e < 0 then Text.ofString "-" else Text.ofString "+") ++ Text.ofNatPadded 2 e.natAbs

/-- Positional while the first digit stands from four places behind the point to sixteen before
it, and with an exponent otherwise.  A whole positional number ends in `.0`. -/
def written (d : Decimal) : Text :=
  let digits := Text.ofNat d.digits
  let e := d.leading
  if e < -4 ∨ 16 ≤ e then
    match digits with
    | [] => []
    | [c] => c :: exponentText e
    | c :: cs => c :: '.' :: cs ++ exponentText e
  else if e < 0 then "0." ++ Text.zeros (e.natAbs - 1) ++ digits
  else
    let before := e.toNat + 1
    if digits.length ≤ before then digits ++ Text.zeros (before - digits.length) ++ ".0"
    else digits.take before ++ "." ++ digits.drop before

end Decimal

namespace Double

def sign (negative : Bool) : Text := if negative then Text.ofString "-" else []

/-- The shortest text that reads back.  What is not finite has a word. -/
def written : Double → Text
  | d@(finite s m _ _) =>
    sign s ++ if m = 0 then Text.ofString "0.0" else d.shortest.written
  | infinite s => sign s ++ "inf"
  | nan => "nan"

/-- The number with so many places behind the point, a half going to the even digit, after division
by a power of two. -/
def fixed (places shift : Nat) : Double → Text
  | d@(finite s ..) =>
    let scale := Nat.pow 10 places
    let n := roundDiv (d.units * scale) (Nat.pow 2 (unitPlaces + shift))
    sign s ++ Text.ofNat (n / scale) ++ "." ++ Text.ofNatPadded places (n % scale)
  | infinite s => sign s ++ "inf"
  | nan => "nan"

end Double

end JsonDesk
