import JsonDesk.Json.Value
import JsonDesk.Json.Fault
import JsonDesk.Number.Decimal

set_option autoImplicit false

namespace JsonDesk

/-- The parts of a spelling.  A fraction and an exponent have digits if they are there at all. -/
structure Numeral where
  negative : Bool
  whole : Text
  fraction : Text
  exponent : Option (Bool × Text)
deriving DecidableEq

namespace Numeral

def digits (t : Text) : Text := t.takeWhile CodePoint.isDigit

def afterDigits (t : Text) : Text := t.dropWhile CodePoint.isDigit

theorem digits_append (t : Text) : digits t ++ afterDigits t = t :=
  List.takeWhile_append_dropWhile

theorem length_afterDigits (t : Text) : (afterDigits t).length ≤ t.length := by
  have h := congrArg List.length (digits_append t)
  rw [List.length_append] at h
  omega

def sign : Text → Bool × Text
  | [] => (false, [])
  | c :: t => if c = '-' then (true, t) else (false, c :: t)

/-- A single zero, or digits that start with another digit. -/
def whole? : Text → Option (Text × Text)
  | [] => none
  | c :: t =>
    if c = '0' then some ([c], t)
    else if c.isDigit then some (c :: digits t, afterDigits t)
    else none

/-- A point with digits after it; anything less is left alone. -/
def fractionOf : Text → Text × Text
  | [] => ([], [])
  | c :: t =>
    if c = '.' ∧ digits t ≠ [] then (digits t, afterDigits t) else ([], c :: t)

def exponentSign : Text → Bool × Text
  | [] => (false, [])
  | c :: t => if c = '-' then (true, t) else if c = '+' then (false, t) else (false, c :: t)

/-- A letter e with an optional sign and digits; anything less is left alone. -/
def exponentOf : Text → Option (Bool × Text) × Text
  | [] => (none, [])
  | c :: t =>
    let (negative, u) := exponentSign t
    if (c = 'e' ∨ c = 'E') ∧ digits u ≠ [] then (some (negative, digits u), afterDigits u)
    else (none, c :: t)

def read? (t : Text) : Option (Numeral × Text) :=
  let (negative, t) := sign t
  match whole? t with
  | none => none
  | some (whole, t) =>
    let (fraction, t) := fractionOf t
    let (exponent, t) := exponentOf t
    some (⟨negative, whole, fraction, exponent⟩, t)

theorem length_sign_le (t : Text) : (sign t).2.length ≤ t.length := by
  cases t with
  | nil => simp [sign]
  | cons c t => rw [sign]; split <;> simp

theorem length_whole?_lt {t w r : Text} (h : whole? t = some (w, r)) : r.length < t.length := by
  cases t with
  | nil => simp [whole?] at h
  | cons c t =>
    have l := length_afterDigits t
    rw [whole?] at h
    split at h
    · simp at h; simp [h.2]
    · split at h
      · simp at h; simp [← h.2]; omega
      · simp at h

theorem length_fractionOf_le (t : Text) : (fractionOf t).2.length ≤ t.length := by
  cases t with
  | nil => simp [fractionOf]
  | cons c t =>
    have l := length_afterDigits t
    rw [fractionOf]
    split
    · simp; omega
    · simp

theorem length_exponentSign_le (t : Text) : (exponentSign t).2.length ≤ t.length := by
  cases t with
  | nil => simp [exponentSign]
  | cons c t => rw [exponentSign]; split <;> simp; split <;> simp

theorem length_exponentOf_le (t : Text) : (exponentOf t).2.length ≤ t.length := by
  cases t with
  | nil => simp [exponentOf]
  | cons c t =>
    have l := length_exponentSign_le t
    have l' := length_afterDigits (exponentSign t).2
    simp only [exponentOf]
    split
    · simp; omega
    · simp

theorem length_read?_lt {t r : Text} {n : Numeral} (h : read? t = some (n, r)) :
    r.length < t.length := by
  simp only [read?] at h
  split at h
  · simp at h
  · rename_i w u hw
    simp only [Option.some.injEq, Prod.mk.injEq] at h
    have h1 := length_sign_le t
    have h2 := length_whole?_lt hw
    have h3 := length_fractionOf_le u
    have h4 := length_exponentOf_le (fractionOf u).2
    rw [← h.2]
    omega

def isInteger (n : Numeral) : Bool := n.fraction.isEmpty && n.exponent.isNone

def magnitude (t : Text) : Nat := t.natOf CodePoint.digit?

def toInt (n : Numeral) : Int :=
  if n.negative then -(magnitude n.whole : Int) else magnitude n.whole

def toDecimal (n : Numeral) : Decimal :=
  let shift : Int := match n.exponent with
    | none => 0
    | some (negative, t) => if negative then -(magnitude t : Int) else magnitude t
  ⟨magnitude (n.whole ++ n.fraction), shift - n.fraction.length⟩

def toDouble (n : Numeral) : Double := n.toDecimal.toDouble n.negative

end Numeral

end JsonDesk
