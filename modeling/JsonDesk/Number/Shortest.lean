import JsonDesk.Number.Decimal

/-!
The shortest decimal that reads back as a given double.  For one digit, two digits and so on, the
two decimals of that many digits that enclose the number are read back; the first length with a
hit is taken, of two hits the nearer one, and of two equally near the one with the even digit.
-/

set_option autoImplicit false

namespace JsonDesk.Double

/-- Every finite number is a whole number of these parts, since
`2 ^ -1074 = 5 ^ 1074 * 10 ^ -1074`. -/
def partsPerUnit : Nat := Nat.pow 5 unitPlaces

def parts (d : Double) : Nat := d.units * partsPerUnit

def exact (d : Double) : Decimal := ⟨d.parts, -(unitPlaces : Int)⟩

/-- The neighbour on the grid of multiples of `10 ^ step` parts that reads back, if one does. -/
def onGrid? (d : Double) (step : Nat) : Option Decimal :=
  let size := Nat.pow 10 step
  let low := d.parts / size
  let rest := d.parts % size
  let exponent := (step : Int) - unitPlaces
  let hit (n : Nat) : Option Decimal :=
    if Decimal.toDouble d.isNegative ⟨n, exponent⟩ = d then some ⟨n, exponent⟩ else none
  let lowFirst := 2 * rest < size || (2 * rest == size && low % 2 == 0)
  if lowFirst then (hit low).or (hit (low + 1)) else (hit (low + 1)).or (hit low)

/-- Seventeen digits always suffice; the exact decimal stands behind them. -/
def shortest (d : Double) : Decimal :=
  let top := log10 d.parts
  (((List.range 17).findSome? fun k => d.onGrid? (top - k)).getD d.exact).trimmed

end JsonDesk.Double
