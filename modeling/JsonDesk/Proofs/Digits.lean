import JsonDesk.Proofs.Numerals
import JsonDesk.Number.Written
import Mathlib.Tactic.Ring

set_option autoImplicit false

namespace JsonDesk

namespace CodePoint

theorem isDigit_ofDigit {d : Nat} (h : d < 10) : (ofDigit d).isDigit = true := by
  simp [isDigit, digit?_ofDigit h]

theorem ofDigit_ne_zero {d : Nat} (h : d < 10) (hd : d ≠ 0) : ofDigit d ≠ CodePoint.ofChar '0' := by
  intro he
  have hv := digit?_ofDigit h
  rw [he] at hv
  exact hd (Option.some.inj hv).symm

end CodePoint

namespace Text

theorem ofNat_go (n : Nat) (done : Text) : ofNat.go n done = ofNat n ++ done := by
  induction n using Nat.strongRecOn generalizing done with
  | ind n ih =>
    rw [ofNat, ofNat.go.eq_def n done, ofNat.go.eq_def n []]
    split
    · rfl
    · rw [ih (n / 10) (by omega), ih (n / 10) (by omega) [_]]
      simp

theorem ofNat_of_lt {n : Nat} (h : n < 10) : ofNat n = [CodePoint.ofDigit n] := by
  rw [ofNat, ofNat.go, if_pos h]

theorem ofNat_of_le {n : Nat} (h : 10 ≤ n) :
    ofNat n = ofNat (n / 10) ++ [CodePoint.ofDigit (n % 10)] := by
  rw [ofNat, ofNat.go, if_neg (by omega), ofNat_go]

theorem isDigit_of_mem_ofNat (n : Nat) : ∀ c ∈ ofNat n, c.isDigit := by
  induction n using Nat.strongRecOn with
  | ind n ih =>
    by_cases h : n < 10
    · simpa [ofNat_of_lt h] using CodePoint.isDigit_ofDigit h
    · rw [ofNat_of_le (by omega)]
      intro c hc
      rcases List.mem_append.mp hc with hc | hc
      · exact ih (n / 10) (by omega) c hc
      · rw [List.mem_singleton.mp hc]
        exact CodePoint.isDigit_ofDigit (Nat.mod_lt n (by decide))

theorem ofNat_ne_nil (n : Nat) : ofNat n ≠ [] := by
  by_cases h : n < 10
  · simp [ofNat_of_lt h]
  · simp [ofNat_of_le (Nat.not_lt.mp h)]

theorem head_ofNat {n : Nat} (h : n ≠ 0) : (ofNat n).head? ≠ some (CodePoint.ofChar '0') := by
  induction n using Nat.strongRecOn with
  | ind n ih =>
    by_cases hn : n < 10
    · simpa [ofNat_of_lt hn] using CodePoint.ofDigit_ne_zero hn h
    · rw [ofNat_of_le (by omega)]
      cases ht : ofNat (n / 10) with
      | nil => exact absurd ht (ofNat_ne_nil _)
      | cons c t =>
        have hc := ih (n / 10) (by omega) (by omega)
        rw [ht] at hc
        exact hc

theorem length_ofNat_le {n k : Nat} (hk : k ≠ 0) (h : n < 10 ^ k) : (ofNat n).length ≤ k := by
  induction n using Nat.strongRecOn generalizing k with
  | ind n ih =>
    by_cases hn : n < 10
    · rw [ofNat_of_lt hn, List.length_singleton]
      omega
    · obtain ⟨j, rfl⟩ : ∃ j, k = j + 1 := ⟨k - 1, by omega⟩
      rw [Nat.pow_succ] at h
      have hj : j ≠ 0 := by
        rintro rfl
        omega
      have hq := ih (n / 10) (by omega) hj (by omega)
      rw [ofNat_of_le (by omega), List.length_append, List.length_singleton]
      omega

end Text

namespace Numeral

@[simp] theorem magnitude_nil : magnitude [] = 0 := rfl

theorem foldl_digits (t : Text) (n : Nat) :
    t.foldl (fun n c => 10 * n + c.digit?.getD 0) n = n * 10 ^ t.length + magnitude t := by
  induction t generalizing n with
  | nil => simp
  | cons c t ih =>
    have hcons : magnitude (c :: t) = c.digit?.getD 0 * 10 ^ t.length + magnitude t := by
      simpa [magnitude, Text.natOf] using ih (c.digit?.getD 0)
    rw [List.foldl_cons, ih, hcons, List.length_cons, Nat.pow_succ]
    ring

theorem magnitude_append (t u : Text) :
    magnitude (t ++ u) = magnitude t * 10 ^ u.length + magnitude u := by
  rw [← foldl_digits]
  simp [magnitude, Text.natOf]

theorem magnitude_append_digit (t : Text) (c : CodePoint) :
    magnitude (t ++ [c]) = 10 * magnitude t + c.digit?.getD 0 := by
  simp [magnitude, Text.natOf]

theorem magnitude_ofNat (n : Nat) : magnitude (Text.ofNat n) = n := by
  induction n using Nat.strongRecOn with
  | ind n ih =>
    by_cases h : n < 10
    · simp [Text.ofNat_of_lt h, magnitude, Text.natOf, CodePoint.digit?_ofDigit h]
    · rw [Text.ofNat_of_le (by omega), magnitude_append_digit, ih (n / 10) (by omega),
        CodePoint.digit?_ofDigit (Nat.mod_lt n (by decide))]
      simp only [Option.getD_some]
      omega

theorem magnitude_zeros (k : Nat) : magnitude (Text.zeros k) = 0 := by
  induction k with
  | zero => rfl
  | succ k ih =>
    have hzero : (CodePoint.ofChar '0').digit?.getD 0 = 0 := by decide
    rw [Text.zeros, List.replicate_succ', magnitude_append_digit, hzero]
    simpa [Text.zeros] using ih

theorem isDigit_of_mem_zeros (k : Nat) : ∀ c ∈ Text.zeros k, c.isDigit := by
  intro c hc
  rw [List.eq_of_mem_replicate hc]
  decide

theorem magnitude_ofNatPadded (width n : Nat) : magnitude (Text.ofNatPadded width n) = n := by
  simp [Text.ofNatPadded, magnitude_append, magnitude_zeros, magnitude_ofNat]

end Numeral

namespace Grammar

theorem digits_ofNat (n : Nat) : Digits (Text.ofNat n) :=
  ⟨Text.ofNat_ne_nil n, Text.isDigit_of_mem_ofNat n⟩

theorem whole_of_head {t : Text} (h : Digits t) (hz : t.head? ≠ some (CodePoint.ofChar '0')) :
    Whole t := by
  cases t with
  | nil => exact absurd rfl h.1
  | cons c t => exact .digits (by simpa using hz) h

theorem whole_ofNat (n : Nat) : Whole (Text.ofNat n) := by
  by_cases h : n = 0
  · subst h
    rw [Text.ofNat_of_lt (by decide)]
    exact .zero
  · exact whole_of_head (digits_ofNat n) (Text.head_ofNat h)

theorem digits_ofNatPadded (width n : Nat) : Digits (Text.ofNatPadded width n) := by
  refine ⟨by simp [Text.ofNatPadded, Text.ofNat_ne_nil], fun c hc => ?_⟩
  rcases List.mem_append.mp hc with hc | hc
  · exact Numeral.isDigit_of_mem_zeros _ c hc
  · exact Text.isDigit_of_mem_ofNat n c hc

theorem number_ofInt (i : Int) :
    Number (Text.ofInt i) ⟨decide (i < 0), Text.ofNat i.natAbs, [], none⟩ := by
  cases i with
  | ofNat n =>
    have h := Number.mk .plus (whole_ofNat n) .none .none
    have hn : ¬ ((n : Int) < 0) := by omega
    simpa [Text.ofInt, hn] using h
  | negSucc n =>
    have h := Number.mk .minus (whole_ofNat (n + 1)) .none .none
    simpa [Text.ofInt, Text.ofString] using h

end Grammar

namespace Numeral

theorem toInt_ofInt (i : Int) :
    toInt ⟨decide (i < 0), Text.ofNat i.natAbs, [], none⟩ = i := by
  simp only [toInt, magnitude_ofNat, decide_eq_true_eq]
  split <;> omega

end Numeral

end JsonDesk
