import JsonDesk.Number.Double

set_option autoImplicit false

namespace JsonDesk

/-- The greatest power of ten that a positive number reaches; the binary logarithm gives a start
that is never too high. -/
def log10 (n : Nat) : Nat := climb (n.log2 * 30102 / 100000)
where
  climb (e : Nat) : Nat := if Nat.pow 10 (e + 1) ≤ n then climb (e + 1) else e
  termination_by n - e
  decreasing_by
    have h : e < Nat.pow 10 (e + 1) :=
      Nat.lt_trans (Nat.lt_pow_self (by decide)) (Nat.pow_lt_pow_succ (by decide))
    omega

/-- The number `digits * 10 ^ exponent`. -/
structure Decimal where
  digits : Nat
  exponent : Int
deriving DecidableEq

namespace Decimal

def trimmed (d : Decimal) : Decimal := go d.digits d.exponent
where
  go (n : Nat) (e : Int) : Decimal :=
    if h : n ≠ 0 ∧ n % 10 = 0 then go (n / 10) (e + 1) else ⟨n, e⟩
  termination_by n
  decreasing_by exact Nat.div_lt_self (by omega) (by decide)

/-- The double nearest to a decimal.  Below `10 ^ -400` that is zero and from `10 ^ 400` on it is
infinite, so huge exponents need no powers. -/
def toDouble (negative : Bool) (d : Decimal) : Double :=
  if d.digits = 0 then Double.ofRatio negative 0 1
  else
    let top := d.exponent + log10 d.digits
    if 400 ≤ top then .infinite negative
    else if top < -400 then Double.ofRatio negative 0 1
    else match d.exponent with
      | .ofNat e => Double.ofRatio negative (d.digits * Nat.pow 10 e) 1
      | .negSucc e => Double.ofRatio negative d.digits (Nat.pow 10 (e + 1))

end Decimal

end JsonDesk
