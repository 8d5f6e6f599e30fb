import JsonDesk.Number.Rounding

/-!
Binary floating point numbers of 64 bits, with exact contents.  The least positive number is the
unit `2 ^ -1074`, and every finite number is a whole number of units; so rounding a quotient,
comparing with an integer and taking the whole part are all done on natural numbers.
-/

set_option autoImplicit false

namespace JsonDesk

def mantissaEnd : Nat := 0x20000000000000

def mantissaFull : Nat := 0x10000000000000

/-- The one form of a magnitude of `mantissa * 2 ^ scale` units: all bits of the mantissa are used
unless the scale is the lowest. -/
def Canonical (mantissa scale : Nat) : Prop :=
  mantissa < mantissaEnd ∧ scale ≤ 2045 ∧ (scale = 0 ∨ mantissaFull ≤ mantissa)

instance (mantissa scale : Nat) : Decidable (Canonical mantissa scale) :=
  inferInstanceAs (Decidable (_ ∧ _ ∧ _))

inductive Double
  | finite (negative : Bool) (mantissa scale : Nat) (canonical : Canonical mantissa scale)
  | infinite (negative : Bool)
  | nan
deriving DecidableEq

namespace Double

/-- How many binary places the unit lies behind the point. -/
def unitPlaces : Nat := 1074

def zero : Double := finite false 0 0 (by decide)

instance : Inhabited Double := ⟨zero⟩

/-- A magnitude that has no room is infinite. -/
def ofParts (negative : Bool) (mantissa scale : Nat) : Double :=
  if h : Canonical mantissa scale then finite negative mantissa scale h else infinite negative

/-- The nearest number to a quotient, a half going to the even mantissa. -/
def ofRatio (negative : Bool) (num den : Nat) : Double :=
  let units := num * Nat.pow 2 unitPlaces
  let scale := (units / den).log2 - 52
  let mantissa := roundDiv units (den * Nat.pow 2 scale)
  if mantissa = mantissaEnd then ofParts negative mantissaFull (scale + 1)
  else ofParts negative mantissa scale

/-- The nearest number to an integer, and nothing for integers beyond the largest number. -/
def ofInt? (i : Int) : Option Double :=
  match ofRatio (decide (i < 0)) i.natAbs 1 with
  | infinite _ => none
  | d => some d

def isFinite : Double → Bool
  | finite .. => true
  | _ => false

def isNegative : Double → Bool
  | finite s .. => s
  | infinite s => s
  | nan => false

def units : Double → Nat
  | finite _ m q _ => m * Nat.pow 2 q
  | _ => 0

def unitsPerOne : Nat := Nat.pow 2 unitPlaces

def signedUnits (d : Double) : Int := if d.isNegative then -(d.units : Int) else d.units

def isZero : Double → Bool
  | finite _ m _ _ => m == 0
  | _ => false

/-- Numerical equality: the zeros are equal, and nothing equals the undefined number. -/
def equals : Double → Double → Bool
  | finite s m q _, finite s' m' q' _ => (m == 0 && m' == 0) || (s == s' && m == m' && q == q')
  | infinite s, infinite s' => s == s'
  | _, _ => false

/-- Numerical equality with an integer, without rounding either. -/
def equalsInt : Double → Int → Bool
  | d@(finite ..), i => d.signedUnits == i * unitsPerOne
  | _, _ => false

def notPositive : Double → Bool
  | finite s m _ _ => s || m == 0
  | infinite s => s
  | nan => false

/-- The whole part of a finite number, rounded towards zero. -/
def whole? : Double → Option Int
  | d@(finite ..) => some (d.signedUnits.tdiv unitsPerOne)
  | _ => none

def lt : Double → Double → Bool
  | nan, _ => false
  | _, nan => false
  | infinite s, infinite s' => s && !s'
  | infinite s, finite .. => s
  | finite .., infinite s => !s
  | d@(finite ..), d'@(finite ..) => decide (d.signedUnits < d'.signedUnits)

/-- The product with a power of two, rounded only if it is too large. -/
def timesPowerOfTwo : Double → Nat → Double
  | d@(finite s ..), k => ofRatio s (d.units * Nat.pow 2 k) unitsPerOne
  | d, _ => d

def addInt : Double → Int → Double
  | d@(finite ..), i =>
    if i = 0 then d
    else
      let sum := d.signedUnits + i * unitsPerOne
      ofRatio (decide (sum < 0)) sum.natAbs unitsPerOne
  | d, _ => d

end Double

end JsonDesk
