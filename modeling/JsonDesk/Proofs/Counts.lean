import JsonDesk.Proofs.Doubles

set_option autoImplicit false

namespace JsonDesk

theorem roundDiv_mono {a b : Nat} (h : a ≤ b) {den : Nat} (hden : 0 < den) :
    roundDiv a den ≤ roundDiv b den := by
  by_contra hlt
  have ha := (roundDiv_near a hden).2
  have hb := (roundDiv_near b hden).1
  have hmul : (roundDiv b den + 1) * den ≤ roundDiv a den * den :=
    Nat.mul_le_mul_right _ (by omega)
  rw [Nat.add_mul] at hmul
  -- both are as far from the middle as they can be, so they are the same
  have heq : a = b := by omega
  rw [heq] at hlt
  exact hlt (Nat.le_refl _)

theorem le_roundDiv {q num den : Nat} (hden : 0 < den) (h : q * den ≤ num) :
    q ≤ roundDiv num den := by
  rw [← roundDiv_mul_right q hden]
  exact roundDiv_mono h hden

theorem roundDiv_le {q num den : Nat} (hden : 0 < den) (h : num ≤ q * den) :
    roundDiv num den ≤ q := by
  rw [← roundDiv_mul_right q hden]
  exact roundDiv_mono h hden

namespace Double

theorem unitsPerOne_eq {a b : Nat} (h : a + b = unitPlaces) : unitsPerOne = 2 ^ a * 2 ^ b := by
  rw [← Nat.pow_add, h]
  unfold unitsPerOne
  generalize unitPlaces = k
  rfl

theorem ofRatio_count {n : Nat} (hn : n ≠ 0) :
    ofRatio false n 1 =
      let mantissa := roundDiv (n * 2 ^ 52) (2 ^ n.log2)
      if mantissa = mantissaEnd then ofParts false mantissaFull (n.log2 + (unitPlaces - 52) + 1)
      else ofParts false mantissa (n.log2 + (unitPlaces - 52)) := by
  have hscale : (n * unitsPerOne / 1).log2 - 52 = n.log2 + (unitPlaces - 52) := by
    rw [Nat.div_one, unitsPerOne_eq (Nat.zero_add _), Nat.pow_zero, Nat.one_mul, log2_mul_pow hn]
    exact Nat.add_sub_assoc (by decide) _
  have hround : roundDiv (n * unitsPerOne) (1 * 2 ^ (n.log2 + (unitPlaces - 52))) =
      roundDiv (n * 2 ^ 52) (2 ^ n.log2) := by
    rw [unitsPerOne_eq (Nat.add_sub_cancel' (by decide : 52 ≤ unitPlaces)), Nat.pow_add 2 n.log2,
      Nat.one_mul, ← Nat.mul_assoc]
    exact roundDiv_mul_mul_right _ _ (Nat.pow_pos (by decide))
  rw [ofRatio_eq]
  simp only [hscale, hround]

theorem ofRatio_smallCount {n : Nat} (hn : n ≠ 0) (h : n < mantissaEnd) :
    ∃ m q hc, ofRatio false n 1 = finite false m q hc ∧ m * 2 ^ q = n * unitsPerOne := by
  have hlt : n.log2 < 53 := (Nat.log2_lt hn).mpr h
  have hunits : n * 2 ^ (52 - n.log2) * 2 ^ (n.log2 + (unitPlaces - 52)) = n * unitsPerOne := by
    have hplaces : 52 - n.log2 + (n.log2 + (unitPlaces - 52)) = unitPlaces := by
      have hmore : 52 ≤ unitPlaces := by decide
      omega
    rw [unitsPerOne_eq hplaces, Nat.mul_assoc]
  have hc : Canonical (n * 2 ^ (52 - n.log2)) (n.log2 + (unitPlaces - 52)) := by
    have hsum (k : Nat) : 2 ^ (n.log2 + k) * 2 ^ (52 - n.log2) = 2 ^ (52 + k) := by
      rw [← Nat.pow_add, show n.log2 + k + (52 - n.log2) = 52 + k by omega]
    have hplaces : unitPlaces = 1074 := rfl
    refine ⟨?_, by omega, .inr ?_⟩
    · exact Nat.lt_of_lt_of_eq
        (Nat.mul_lt_mul_of_pos_right Nat.lt_log2_self (Nat.pow_pos (by decide))) (hsum 1)
    · exact Nat.le_trans (Nat.le_of_eq (hsum 0).symm)
        (Nat.mul_le_mul_right _ (Nat.log2_self_le hn))
  refine ⟨_, _, hc, ?_, hunits⟩
  rw [← ofRatio_units false hc]
  exact ofRatio_congr false (by decide) unitsPerOne_pos (by rw [hunits, Nat.mul_one])

/-- A count with more digits than a mantissa is rounded, but not to less than the least of these
counts; only enormous ones are beyond all doubles. -/
theorem ofRatio_largeCount {n : Nat} (h : mantissaEnd ≤ n) :
    (ofRatio false n 1 = infinite false ∧ 2 ^ 1023 ≤ n) ∨
      ∃ m q hc, ofRatio false n 1 = finite false m q hc ∧
        mantissaEnd * unitsPerOne ≤ m * 2 ^ q := by
  have hn : n ≠ 0 := by
    rintro rfl
    exact absurd h (by decide)
  have hlog : 53 ≤ n.log2 := (Nat.le_log2 hn).mpr h
  have hpow (k : Nat) (hk : k ≤ n.log2) : 2 ^ k ≤ n := (Nat.le_log2 hn).mp hk
  have hfull : mantissaFull ≤ roundDiv (n * 2 ^ 52) (2 ^ n.log2) := by
    refine le_roundDiv (Nat.pow_pos (by decide)) ?_
    rw [Nat.mul_comm n]
    exact Nat.mul_le_mul_left _ (Nat.log2_self_le hn)
  have hend : roundDiv (n * 2 ^ 52) (2 ^ n.log2) ≤ mantissaEnd := by
    have hlt : n ≤ 2 * 2 ^ n.log2 := by
      rw [Nat.mul_comm, ← Nat.pow_succ]
      exact Nat.le_of_lt Nat.lt_log2_self
    refine roundDiv_le (Nat.pow_pos (by decide)) ?_
    rw [show mantissaEnd = 2 * 2 ^ 52 from rfl, Nat.mul_right_comm]
    exact Nat.mul_le_mul_right _ hlt
  have hparts {m q : Nat} (hm : mantissaFull ≤ m) (hm' : m < mantissaEnd)
      (hq : n.log2 + (unitPlaces - 52) ≤ q) (hq' : q ≤ n.log2 + (unitPlaces - 52) + 1) :
      (ofParts false m q = infinite false ∧ 2 ^ 1023 ≤ n) ∨
      ∃ m' q' hc, ofParts false m q = finite false m' q' hc ∧
        mantissaEnd * unitsPerOne ≤ m' * 2 ^ q' := by
    by_cases hc : Canonical m q
    · refine .inr ⟨m, q, hc, dif_pos hc, ?_⟩
      have hone : unitsPerOne = 2 ^ 52 * 2 ^ (unitPlaces - 52) :=
        unitsPerOne_eq (Nat.add_sub_cancel' (by decide))
      calc mantissaEnd * unitsPerOne = mantissaFull * 2 ^ (53 + (unitPlaces - 52)) := by
            rw [hone, Nat.pow_add 2 53]
            generalize 2 ^ (unitPlaces - 52) = k
            simp only [mantissaEnd, mantissaFull]
            omega
        _ ≤ m * 2 ^ q := units_le hm (by omega)
    · refine .inl ⟨dif_neg hc, ?_⟩
      have hlarge : 1023 ≤ n.log2 := by
        by_contra hsmall
        have hplaces : unitPlaces = 1074 := rfl
        exact hc ⟨hm', by omega, .inr hm⟩
      exact hpow 1023 hlarge
  rw [ofRatio_count hn]
  dsimp only
  split
  · exact hparts (Nat.le_refl _) (by decide) (Nat.le_succ _) (Nat.le_refl _)
  · exact hparts hfull (by omega) (Nat.le_refl _) (Nat.le_succ _)

theorem ofInt?_count {n : Nat} {d : Double} (hd : ofRatio false n 1 = d) :
    (d.isFinite = true → ofInt? n = some d) ∧
      (d = .infinite false → ofInt? n = none) := by
  have hsign : decide ((n : Int) < 0) = false := by simp
  -- opened as a function: applied to a count, the rounding would be evaluated
  obtain ⟨f, hf⟩ : ∃ f, f = ofInt? := ⟨_, rfl⟩
  rw [← hf]
  delta ofInt? at hf
  rw [hf]
  dsimp only
  rw [hsign, Int.natAbs_natCast, hd]
  cases d with
  | finite => exact ⟨fun _ => rfl, nofun⟩
  | infinite s => exact ⟨nofun, fun _ => rfl⟩
  | nan => exact ⟨nofun, nofun⟩

end Double

end JsonDesk
