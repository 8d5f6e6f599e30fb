import JsonDesk.Number.Shortest
import Mathlib.Tactic.Ring

/-!
The shortest decimal of a double reads back as that double.  The double nearest to a quotient only
depends on the quotient, so a decimal may be written with more or fewer zeros at its end; what the
search for a short decimal finds reads back because that is what it looks for, and the exact decimal
behind the search reads back because nothing has to be rounded.
-/

set_option autoImplicit false

namespace JsonDesk

theorem roundDiv_mul_mul_right (num den : Nat) {k : Nat} (hk : 0 < k) :
    roundDiv (num * k) (den * k) = roundDiv num den := by
  have hlt (a b : Nat) : a * k < b * k ↔ a < b := Nat.mul_lt_mul_right hk
  rw [roundDiv, roundDiv, Nat.mul_div_mul_right _ _ hk, Nat.mul_mod_mul_right, ← Nat.mul_assoc]
  simp only [hlt]

theorem roundDiv_congr {a b c d : Nat} (hb : 0 < b) (hd : 0 < d) (h : a * d = c * b) :
    roundDiv a b = roundDiv c d := by
  rw [← roundDiv_mul_mul_right a b hd, h, Nat.mul_comm b d, roundDiv_mul_mul_right c d hb]

theorem div_congr {a b c d : Nat} (hb : 0 < b) (hd : 0 < d) (h : a * d = c * b) :
    a / b = c / d := by
  rw [← Nat.mul_div_mul_right a b hd, h, Nat.mul_comm b d, Nat.mul_div_mul_right c d hb]

namespace Double

theorem unitsPerOne_pos : 0 < unitsPerOne := by
  unfold unitsPerOne
  generalize unitPlaces = k
  exact Nat.pow_pos (by decide)

theorem ofRatio_eq (negative : Bool) (num den : Nat) :
    ofRatio negative num den =
      let scale := (num * unitsPerOne / den).log2 - 52
      let mantissa := roundDiv (num * unitsPerOne) (den * 2 ^ scale)
      if mantissa = mantissaEnd then ofParts negative mantissaFull (scale + 1)
      else ofParts negative mantissa scale := by
  unfold ofRatio unitsPerOne
  generalize unitPlaces = k
  rfl

theorem ofRatio_congr (negative : Bool) {a b c d : Nat} (hb : 0 < b) (hd : 0 < d)
    (h : a * d = c * b) : ofRatio negative a b = ofRatio negative c d := by
  have hunits : a * unitsPerOne * d = c * unitsPerOne * b := by
    rw [Nat.mul_right_comm, h, Nat.mul_right_comm]
  have hround (q : Nat) : roundDiv (a * unitsPerOne) (b * 2 ^ q) =
      roundDiv (c * unitsPerOne) (d * 2 ^ q) := by
    have hq : 0 < 2 ^ q := Nat.pow_pos (by decide)
    refine roundDiv_congr (Nat.mul_pos hb hq) (Nat.mul_pos hd hq) ?_
    rw [← Nat.mul_assoc, hunits, Nat.mul_assoc]
  simp only [ofRatio_eq, div_congr hb hd hunits, hround]

theorem log2_mul_pow {m : Nat} (hm : m ≠ 0) (q : Nat) : (m * 2 ^ q).log2 = m.log2 + q := by
  have hq : 0 < 2 ^ q := Nat.pow_pos (by decide)
  rw [Nat.log2_eq_iff (Nat.mul_ne_zero hm (Nat.ne_of_gt hq)), Nat.pow_add, Nat.add_right_comm,
    Nat.pow_add]
  exact ⟨Nat.mul_le_mul_right _ (Nat.log2_self_le hm),
    Nat.mul_lt_mul_of_pos_right Nat.lt_log2_self hq⟩

theorem log2_canonical {m q : Nat} (h : Canonical m q) : (m * 2 ^ q).log2 - 52 = q := by
  obtain ⟨hend, -, hscale⟩ := h
  by_cases hm : m = 0
  · subst hm
    have hq : q = 0 := by simpa [mantissaFull] using hscale
    subst hq
    decide
  · have hlt : m.log2 < 53 := (Nat.log2_lt hm).mpr hend
    rw [log2_mul_pow hm]
    rcases hscale with rfl | hfull
    · omega
    · have hle : 52 ≤ m.log2 := (Nat.le_log2 hm).mpr hfull
      omega

theorem ofRatio_units (negative : Bool) {m q : Nat} (h : Canonical m q) :
    ofRatio negative (m * 2 ^ q) unitsPerOne = finite negative m q h := by
  have hone := unitsPerOne_pos
  rw [ofRatio_eq]
  generalize unitsPerOne = one at hone
  have hscale : (m * 2 ^ q * one / one).log2 - 52 = q := by
    rw [Nat.mul_div_cancel _ hone, log2_canonical h]
  have hround : roundDiv (m * 2 ^ q * one) (one * 2 ^ q) = m := by
    rw [Nat.mul_comm one, Nat.mul_assoc]
    exact roundDiv_mul_right m (Nat.mul_pos (Nat.pow_pos (by decide)) hone)
  simp only [hscale, hround, if_neg (Nat.ne_of_lt h.1), ofParts, dif_pos h]

theorem ofRatio_zero (negative : Bool) :
    ofRatio negative 0 1 = finite negative 0 0 (by decide) := by
  rw [← ofRatio_units negative (by decide : Canonical 0 0)]
  exact ofRatio_congr negative (by decide) unitsPerOne_pos (by simp)

end Double

theorem log10_climb {n e : Nat} (h : 10 ^ e ≤ n) :
    10 ^ log10.climb n e ≤ n ∧ n < 10 ^ (log10.climb n e + 1) := by
  induction hk : n - e using Nat.strongRecOn generalizing e with
  | ind k ih =>
    subst hk
    rw [log10.climb]
    split
    · next hnext =>
      have hlt : e < 10 ^ (e + 1) :=
        Nat.lt_trans (Nat.lt_pow_self (by decide)) (Nat.pow_lt_pow_succ (by decide))
      have hnext : 10 ^ (e + 1) ≤ n := hnext
      exact ih _ (by omega) hnext rfl
    · next hstop => exact ⟨h, Nat.not_le.mp hstop⟩

theorem pow_le_pow_of_ratio {a b p r e l : Nat} (h : a ^ p ≤ b ^ r) (hr : r ≠ 0) (ha : 0 < a)
    (he : e * r ≤ l * p) : a ^ e ≤ b ^ l := by
  have hpow : (a ^ e) ^ r ≤ (b ^ l) ^ r :=
    calc (a ^ e) ^ r = a ^ (e * r) := (Nat.pow_mul ..).symm
      _ ≤ a ^ (l * p) := Nat.pow_le_pow_right ha he
      _ = (a ^ p) ^ l := by rw [Nat.mul_comm, Nat.pow_mul]
      _ ≤ (b ^ r) ^ l := Nat.pow_le_pow_left h _
      _ = (b ^ l) ^ r := Nat.pow_right_comm ..
  exact (Nat.pow_le_pow_iff_left hr).mp hpow

theorem pow_start_le {n : Nat} (h : n ≠ 0) : 10 ^ (n.log2 * 30102 / 100000) ≤ n := by
  have hbase : 10 ^ 30102 ≤ 2 ^ 100000 := by decide +kernel
  have hdiv := Nat.div_mul_le_self (n.log2 * 30102) 100000
  exact Nat.le_trans (pow_le_pow_of_ratio hbase (by decide) (by decide) hdiv) (Nat.log2_self_le h)

theorem log10_spec {n : Nat} (h : n ≠ 0) : 10 ^ log10 n ≤ n ∧ n < 10 ^ (log10 n + 1) :=
  log10_climb (pow_start_le h)

theorem le_log10 {n e : Nat} (h : 10 ^ e ≤ n) : e ≤ log10 n := by
  have hn : n ≠ 0 := Nat.ne_of_gt (Nat.lt_of_lt_of_le (Nat.pow_pos (by decide)) h)
  have hlt := Nat.lt_of_le_of_lt h (log10_spec hn).2
  exact Nat.le_of_lt_succ ((Nat.pow_lt_pow_iff_right (by decide)).mp hlt)

theorem log10_lt {n e : Nat} (hn : n ≠ 0) (h : n < 10 ^ e) : log10 n < e :=
  (Nat.pow_lt_pow_iff_right (by decide)).mp (Nat.lt_of_le_of_lt (log10_spec hn).1 h)

theorem log10_mul_pow {n : Nat} (h : n ≠ 0) (k : Nat) : log10 (n * 10 ^ k) = log10 n + k := by
  obtain ⟨hle, hlt⟩ := log10_spec h
  have hk : 0 < 10 ^ k := Nat.pow_pos (by decide)
  have hge : log10 n + k ≤ log10 (n * 10 ^ k) :=
    le_log10 (by rw [Nat.pow_add]; exact Nat.mul_le_mul_right _ hle)
  have hlt : log10 (n * 10 ^ k) < log10 n + 1 + k :=
    log10_lt (Nat.mul_ne_zero h (Nat.ne_of_gt hk))
      (by rw [Nat.pow_add]; exact Nat.mul_lt_mul_of_pos_right hlt hk)
  omega

namespace Decimal

theorem toDouble_zero (negative : Bool) (e : Int) :
    toDouble negative ⟨0, e⟩ = Double.ofRatio negative 0 1 := by
  simp [toDouble]

theorem toDouble_eq (negative : Bool) {n : Nat} {e : Int} (h : n ≠ 0) (hlow : -400 ≤ e + log10 n)
    (hhigh : e + log10 n < 400) :
    toDouble negative ⟨n, e⟩ =
      Double.ofRatio negative (n * 10 ^ e.toNat) (10 ^ (-e).toNat) := by
  simp only [toDouble, h, if_false, Int.not_le.mpr hhigh, Int.not_lt.mpr hlow]
  cases e with
  | ofNat e => simp
  | negSucc e =>
    have hnum : (Int.negSucc e).toNat = 0 := by omega
    have hden : (-Int.negSucc e).toNat = e + 1 := by omega
    rw [hnum, hden, Nat.pow_zero, Nat.mul_one]
    rfl

theorem toDouble_scale (negative : Bool) (n : Nat) (e : Int) (k : Nat) :
    toDouble negative ⟨n * 10 ^ k, e - k⟩ = toDouble negative ⟨n, e⟩ := by
  by_cases h : n = 0
  · simp [h, toDouble_zero]
  · have hk : n * 10 ^ k ≠ 0 := Nat.mul_ne_zero h (Nat.ne_of_gt (Nat.pow_pos (by decide)))
    have htop : e - k + log10 (n * 10 ^ k) = e + log10 n := by
      rw [log10_mul_pow h]
      omega
    by_cases hhigh : 400 ≤ e + log10 n
    · simp [toDouble, h, htop, hhigh]
    · by_cases hlow : e + log10 n < -400
      · simp [toDouble, h, htop, hhigh, hlow]
      · rw [toDouble_eq negative hk (by omega) (by omega),
          toDouble_eq negative h (by omega) (by omega)]
        refine Double.ofRatio_congr negative (Nat.pow_pos (by decide)) (Nat.pow_pos (by decide)) ?_
        have hexp : k + (e - k).toNat + (-e).toNat = e.toNat + (-(e - k)).toNat := by omega
        rw [Nat.mul_assoc n, Nat.mul_assoc n, Nat.mul_assoc n, ← Nat.pow_add, ← Nat.pow_add, hexp,
          Nat.pow_add]

theorem toDouble_trimmed (negative : Bool) (d : Decimal) :
    toDouble negative d.trimmed = toDouble negative d := by
  obtain ⟨n, e⟩ := d
  show toDouble negative (trimmed.go n e) = toDouble negative ⟨n, e⟩
  induction n using Nat.strongRecOn generalizing e with
  | ind n ih =>
    rw [trimmed.go]
    split
    · next h =>
      rw [ih (n / 10) (by omega), ← toDouble_scale negative (n / 10) (e + 1) 1]
      congr 2
      · omega
      · omega
    · rfl

end Decimal

namespace Double

theorem parts_finite (negative : Bool) {m q : Nat} (h : Canonical m q) :
    (finite negative m q h).parts = m * 2 ^ q * partsPerUnit := rfl

theorem partsPerUnit_pos : 0 < partsPerUnit := by
  unfold partsPerUnit
  generalize unitPlaces = k
  exact Nat.pow_pos (by decide)

theorem partsPerUnit_mul_unitsPerOne : partsPerUnit * unitsPerOne = 10 ^ unitPlaces := by
  unfold partsPerUnit unitsPerOne
  generalize unitPlaces = k
  exact (Nat.mul_pow 5 2 k).symm

theorem units_le {m q n r : Nat} (hm : m ≤ n) (hq : q ≤ r) : m * 2 ^ q ≤ n * 2 ^ r :=
  Nat.mul_le_mul hm (Nat.pow_le_pow_right (by decide) hq)

theorem toDouble_exact {negative : Bool} {m q : Nat} (h : Canonical m q) (hm : m ≠ 0) :
    (finite negative m q h).exact.toDouble negative = finite negative m q h := by
  have hparts := partsPerUnit_pos
  have hunits : 0 < m * 2 ^ q := Nat.mul_pos (Nat.pos_of_ne_zero hm) (Nat.pow_pos (by decide))
  have hne : m * 2 ^ q * partsPerUnit ≠ 0 := Nat.ne_of_gt (Nat.mul_pos hunits hparts)
  have hlow : 674 ≤ log10 (m * 2 ^ q * partsPerUnit) := by
    have hsmall : 10 ^ 674 ≤ partsPerUnit := by decide +kernel
    exact le_log10 (Nat.le_trans hsmall (Nat.le_mul_of_pos_left _ hunits))
  have hhigh : log10 (m * 2 ^ q * partsPerUnit) < 1474 := by
    have hlarge : mantissaEnd * 2 ^ 2045 * partsPerUnit < 10 ^ 1474 := by decide +kernel
    exact log10_lt hne (Nat.lt_of_le_of_lt
      (Nat.mul_le_mul_right _ (units_le (Nat.le_of_lt h.1) h.2.1)) hlarge)
  have hplaces : unitPlaces = 1074 := rfl
  have hnum : (-(unitPlaces : Int)).toNat = 0 := by omega
  have hden : (- -(unitPlaces : Int)).toNat = unitPlaces := by omega
  rw [exact, parts_finite, Decimal.toDouble_eq negative hne (by omega) (by omega), hnum, hden,
    ← ofRatio_units negative h, ← partsPerUnit_mul_unitsPerOne]
  refine ofRatio_congr negative (Nat.mul_pos hparts unitsPerOne_pos) unitsPerOne_pos ?_
  rw [Nat.pow_zero, Nat.mul_one, Nat.mul_assoc]

theorem toDouble_onGrid? {d : Double} {step : Nat} {x : Decimal} (h : d.onGrid? step = some x) :
    x.toDouble d.isNegative = d := by
  have hit {n : Nat} {e : Int}
      (hx : (if Decimal.toDouble d.isNegative ⟨n, e⟩ = d then some (⟨n, e⟩ : Decimal) else none) =
        some x) : x.toDouble d.isNegative = d := by
    split at hx
    · next hread =>
      cases hx
      exact hread
    · cases hx
  simp only [onGrid?] at h
  split at h
  · rcases Option.or_eq_some_iff.mp h with h | ⟨-, h⟩
    · exact hit h
    · exact hit h
  · rcases Option.or_eq_some_iff.mp h with h | ⟨-, h⟩
    · exact hit h
    · exact hit h

theorem exists_shortest (d : Double) :
    ∃ x, d.shortest = x.trimmed ∧ (x = d.exact ∨ ∃ step, d.onGrid? step = some x) := by
  refine ⟨_, rfl, ?_⟩
  cases hfind : (List.range 17).findSome? fun k => d.onGrid? (log10 d.parts - k) with
  | none => exact .inl rfl
  | some x =>
    obtain ⟨k, -, hgrid⟩ := List.exists_of_findSome?_eq_some hfind
    exact .inr ⟨_, hgrid⟩

/-- The shortest decimal reads back. -/
theorem toDouble_shortest {negative : Bool} {m q : Nat} (h : Canonical m q) (hm : m ≠ 0) :
    (finite negative m q h).shortest.toDouble negative = finite negative m q h := by
  obtain ⟨x, hx, rfl | ⟨step, hgrid⟩⟩ := exists_shortest (finite negative m q h)
  · rw [hx, Decimal.toDouble_trimmed]
    exact toDouble_exact h hm
  · rw [hx, Decimal.toDouble_trimmed]
    have hread := toDouble_onGrid? hgrid
    exact hread

end Double

end JsonDesk
