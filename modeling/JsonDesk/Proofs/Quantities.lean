import JsonDesk.Compare
import JsonDesk.Proofs.Doubles
import Mathlib.Algebra.Order.Field.Rat
import Mathlib.Tactic.FieldSimp

set_option autoImplicit false

namespace JsonDesk

inductive Quantity
  | exact (q : ℚ)
  | infinite (negative : Bool)
  | undefined
deriving DecidableEq

namespace Double

/-- The number that a finite double stands for, without rounding. -/
def value (d : Double) : ℚ := d.signedUnits / unitsPerOne

def quantity : Double → Quantity
  | d@(finite ..) => .exact d.value
  | infinite negative => .infinite negative
  | nan => .undefined

theorem canonical_unique {m q m' q' : Nat} (h : Canonical m q) (h' : Canonical m' q')
    (hunits : m * 2 ^ q = m' * 2 ^ q') : m = m' ∧ q = q' := by
  have hscale : q = q' := by rw [← log2_canonical h, hunits, log2_canonical h']
  subst hscale
  exact ⟨Nat.eq_of_mul_eq_mul_right (Nat.pow_pos (by decide)) hunits, rfl⟩

/-- Finite doubles are equal if their signed magnitudes are, so there is one zero only. -/
theorem equals_finite {s s' : Bool} {m q m' q' : Nat} (h : Canonical m q) (h' : Canonical m' q') :
    (finite s m q h).equals (finite s' m' q' h') = true ↔
      (finite s m q h).signedUnits = (finite s' m' q' h').signedUnits := by
  have hunits := canonical_unique h h'
  have hzero : m * 2 ^ q = 0 → m = 0 := fun hz =>
    (Nat.mul_eq_zero.mp hz).resolve_right (Nat.pow_pos (by decide)).ne'
  have hzero' : m' * 2 ^ q' = 0 → m' = 0 := fun hz =>
    (Nat.mul_eq_zero.mp hz).resolve_right (Nat.pow_pos (by decide)).ne'
  simp only [equals, signedUnits, isNegative, units, Nat.pow_eq, Bool.or_eq_true, Bool.and_eq_true,
    beq_iff_eq]
  generalize hu : m * 2 ^ q = u at hunits hzero
  generalize hu' : m' * 2 ^ q' = u' at hunits hzero'
  constructor
  · intro heq
    cases heq with
    | inl hm =>
      obtain ⟨rfl, rfl⟩ := hm
      rw [Nat.zero_mul] at hu hu'
      simp [← hu, ← hu']
    | inr hsame =>
      obtain ⟨⟨rfl, rfl⟩, rfl⟩ := hsame
      rw [← hu, ← hu']
  · intro heq
    cases s <;> cases s' <;> simp only [Bool.false_eq_true, if_true, if_false] at heq
    · exact .inr ⟨⟨rfl, (hunits (by omega)).1⟩, (hunits (by omega)).2⟩
    · exact .inl ⟨hzero (by omega), hzero' (by omega)⟩
    · exact .inl ⟨hzero (by omega), hzero' (by omega)⟩
    · exact .inr ⟨⟨rfl, (hunits (by omega)).1⟩, (hunits (by omega)).2⟩

theorem unitsPerOne_ne_zero : (unitsPerOne : ℚ) ≠ 0 :=
  Nat.cast_ne_zero.mpr unitsPerOne_pos.ne'

theorem equals_iff {d e : Double} (hd : d ≠ nan) : d.equals e = true ↔ d.quantity = e.quantity := by
  cases d with
  | nan => exact absurd rfl hd
  | infinite s => cases e <;> simp [equals, quantity]
  | finite s m q h =>
    cases e with
    | finite s' m' q' h' =>
      rw [equals_finite, quantity, quantity, Quantity.exact.injEq, value, value,
        div_left_inj' unitsPerOne_ne_zero, Int.cast_inj]
    | _ => simp [equals, quantity]

theorem equalsInt_iff {d : Double} {i : Int} :
    d.equalsInt i = true ↔ d.quantity = .exact i := by
  cases d with
  | finite s m q h =>
    rw [equalsInt, beq_iff_eq, quantity, Quantity.exact.injEq, value,
      div_eq_iff unitsPerOne_ne_zero]
    norm_cast
  | _ => simp [equalsInt, quantity]

end Double

namespace Json

inductive Scalar
  | null
  | bool (b : Bool)
  | number (q : Quantity)
  | text (t : Text)
deriving DecidableEq

/-- What a value stands for that is no container. -/
def scalar? : Json → Option Scalar
  | null => some .null
  | bool b => some (.bool b)
  | int i => some (.number (.exact i))
  | float d => some (.number d.quantity)
  | str t => some (.text t)
  | arr _ => none
  | obj _ => none

theorem sameScalar_iff {v w : Json} :
    sameScalar v w = true ↔ v.scalar? ≠ none ∧ v.scalar? = w.scalar? := by
  cases v with
  | int i =>
    cases w with
    | float e => simp only [sameScalar, scalar?, Double.equalsInt_iff]; simp [eq_comm]
    | _ => simp [sameScalar, scalar?]
  | float d =>
    cases w with
    | float e =>
      cases d with
      | nan => cases e <;> simp [sameScalar, scalar?, Double.quantity, Double.equals]
      | _ => simp [sameScalar, scalar?, Double.equals_iff]
    | int i => simp [sameScalar, scalar?, Double.equalsInt_iff]
    | _ => simp [sameScalar, scalar?]
  | _ => cases w <;> simp [sameScalar, scalar?]

end Json

end JsonDesk
