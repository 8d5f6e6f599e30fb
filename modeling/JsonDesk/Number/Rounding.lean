set_option autoImplicit false

namespace JsonDesk

def roundDiv (num den : Nat) : Nat :=
  let q := num / den
  let r := num % den
  if 2 * r < den then q
  else if den < 2 * r then q + 1
  else q + q % 2

/-- The rounded quotient is within half a unit of the exact one. -/
theorem roundDiv_near (num : Nat) {den : Nat} (h : 0 < den) :
    2 * num ≤ 2 * (roundDiv num den * den) + den ∧
      2 * (roundDiv num den * den) ≤ 2 * num + den := by
  have e := Nat.div_add_mod' num den
  have l := Nat.mod_lt num h
  have par : num / den % 2 ≤ 1 := by omega
  simp only [roundDiv]
  split
  · omega
  · split
    · rw [Nat.add_mul]; omega
    · rw [Nat.add_mul]
      rcases Nat.le_one_iff_eq_zero_or_eq_one.mp par with h0 | h1
      · rw [h0]; omega
      · rw [h1]; omega

theorem roundDiv_mul_right (q : Nat) {den : Nat} (h : 0 < den) : roundDiv (q * den) den = q := by
  simp [roundDiv, h]

end JsonDesk
