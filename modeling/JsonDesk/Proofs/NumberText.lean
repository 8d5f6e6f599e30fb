import JsonDesk.Proofs.Digits
import JsonDesk.Proofs.Doubles

set_option autoImplicit false

namespace JsonDesk

namespace Grammar

theorem sign_spelled (negative : Bool) : Sign (Double.sign negative) negative := by
  cases negative with
  | true => exact .minus
  | false => exact .plus

theorem exponent_spelled (e : Int) :
    Exponent (Decimal.exponentText e) (some (decide (e < 0), Text.ofNatPadded 2 e.natAbs)) := by
  have hdigits := digits_ofNatPadded 2 e.natAbs
  by_cases he : e < 0
  · have h := Exponent.minus (.inl rfl) hdigits
    simpa [Decimal.exponentText, he, Text.ofString] using h
  · have h := Exponent.plus (.inl rfl) hdigits
    simpa [Decimal.exponentText, he, Text.ofString] using h

end Grammar

namespace Numeral

theorem toDecimal_none (negative : Bool) (w f : Text) :
    toDecimal ⟨negative, w, f, none⟩ = ⟨magnitude (w ++ f), -(f.length : Int)⟩ := by
  simp [toDecimal]

theorem toDecimal_some (negative : Bool) (w f : Text) (e : Int) :
    toDecimal ⟨negative, w, f, some (decide (e < 0), Text.ofNatPadded 2 e.natAbs)⟩ =
      ⟨magnitude (w ++ f), e - f.length⟩ := by
  simp only [toDecimal, magnitude_ofNatPadded, decide_eq_true_eq, Decimal.mk.injEq, true_and]
  split <;> omega

end Numeral

namespace Decimal
open Grammar

/-- The text is a number with a fraction or an exponent, and it denotes the decimal. -/
def Spelled (t : Text) (d : Decimal) : Prop :=
  ∃ w f ds x e, t = w ++ f ++ x ∧ Whole w ∧ Fraction f ds ∧ Exponent x e ∧ (ds ≠ [] ∨ e ≠ none) ∧
    ∀ negative, (⟨negative, w, ds, e⟩ : Numeral).toDouble = d.toDouble negative

theorem spelled_scientific {n : Nat} {e : Int} {c : CodePoint} {cs : Text}
    (hn : Text.ofNat n = c :: cs) (hc : c ≠ CodePoint.ofChar '0') {f : Text} (hf : Fraction f cs) :
    Spelled (c :: f ++ exponentText (leading ⟨n, e⟩)) ⟨n, e⟩ := by
  have hdigit : c.isDigit := Text.isDigit_of_mem_ofNat n c (by simp [hn])
  have hw : Whole [c] := .digits hc ⟨by simp, by simpa using hdigit⟩
  refine ⟨_, f, cs, _, _, rfl, hw, hf, exponent_spelled _, .inr (by simp), fun negative => ?_⟩
  have hlen : leading ⟨n, e⟩ - cs.length = e := by
    simp only [leading, hn, List.length_cons]
    omega
  rw [Numeral.toDouble, Numeral.toDecimal_some, hlen, List.singleton_append, ← hn,
    Numeral.magnitude_ofNat]

theorem spelled_small {n : Nat} {e : Int} (hlead : leading ⟨n, e⟩ < 0) :
    Spelled ("0." ++ Text.zeros ((leading ⟨n, e⟩).natAbs - 1) ++ Text.ofNat n) ⟨n, e⟩ := by
  have hdigits : Digits (Text.zeros ((leading ⟨n, e⟩).natAbs - 1) ++ Text.ofNat n) := by
    refine ⟨by simp [Text.ofNat_ne_nil], fun c hc => ?_⟩
    rcases List.mem_append.mp hc with hc | hc
    · exact Numeral.isDigit_of_mem_zeros _ c hc
    · exact Text.isDigit_of_mem_ofNat n c hc
  refine ⟨"0", _, _, [], none, ?_, .zero, .some hdigits, .none, .inl hdigits.1, fun negative => ?_⟩
  · simp [Text.ofString]
  · have hzero : Numeral.magnitude "0" = 0 := by decide
    have hlen : -((Text.zeros ((leading ⟨n, e⟩).natAbs - 1) ++ Text.ofNat n).length : Int) = e := by
      simp only [List.length_append, Text.zeros, List.length_replicate]
      simp only [leading] at hlead ⊢
      omega
    rw [Numeral.toDouble, Numeral.toDecimal_none, hlen, Numeral.magnitude_append, hzero,
      Numeral.magnitude_append, Numeral.magnitude_zeros, Numeral.magnitude_ofNat]
    simp

theorem spelled_whole {n : Nat} {e : Int} (hn : n ≠ 0) {k : Nat} (hk : e = k) :
    Spelled (Text.ofNat n ++ Text.zeros k ++ ".0") ⟨n, e⟩ := by
  have hhead : (Text.ofNat n ++ Text.zeros k).head? ≠ some (CodePoint.ofChar '0') := by
    have := Text.head_ofNat hn
    cases ht : Text.ofNat n with
    | nil => exact absurd ht (Text.ofNat_ne_nil n)
    | cons c t =>
      rw [ht] at this
      exact this
  have hw : Whole (Text.ofNat n ++ Text.zeros k) := by
    refine whole_of_head ⟨by simp [Text.ofNat_ne_nil], fun c hc => ?_⟩ hhead
    rcases List.mem_append.mp hc with hc | hc
    · exact Text.isDigit_of_mem_ofNat n c hc
    · exact Numeral.isDigit_of_mem_zeros _ c hc
  have hf : Fraction ("." ++ "0") "0" := .some ⟨by decide, by decide⟩
  refine ⟨_, _, _, [], none, ?_, hw, hf, .none, .inl (by decide), fun negative => ?_⟩
  · simp [Text.ofString]
  · have hmag : Numeral.magnitude (Text.ofNat n ++ Text.zeros k ++ "0") = n * 10 ^ (k + 1) := by
      have hzero : Numeral.magnitude "0" = 0 := by decide
      rw [Numeral.magnitude_append, Numeral.magnitude_append, Numeral.magnitude_ofNat,
        Numeral.magnitude_zeros, hzero, Nat.pow_succ]
      simp [Text.zeros, Text.ofString]
      ring
    have hexp : -((("0" : Text).length : Nat) : Int) = e - ((k + 1 : Nat) : Int) := by
      have hone : ("0" : Text).length = 1 := rfl
      omega
    rw [Numeral.toDouble, Numeral.toDecimal_none, hmag, hexp, toDouble_scale]

theorem spelled_split {n : Nat} {e : Int} (hn : n ≠ 0) {k : Nat} (hk : k ≠ 0)
    (hlen : k < (Text.ofNat n).length) (he : -(((Text.ofNat n).length - k : Nat) : Int) = e) :
    Spelled ((Text.ofNat n).take k ++ "." ++ (Text.ofNat n).drop k) ⟨n, e⟩ := by
  have hdigits := Text.isDigit_of_mem_ofNat n
  have hw : Whole ((Text.ofNat n).take k) := by
    refine whole_of_head ⟨?_, fun c hc => hdigits c (List.mem_of_mem_take hc)⟩ ?_
    · simp [hk, Text.ofNat_ne_nil]
    · rw [List.head?_take, if_neg hk]
      exact Text.head_ofNat hn
  have hf : Digits ((Text.ofNat n).drop k) :=
    ⟨by simpa using hlen, fun c hc => hdigits c (List.mem_of_mem_drop hc)⟩
  refine ⟨_, _, _, [], none, ?_, hw, .some hf, .none, .inl hf.1, fun negative => ?_⟩
  · simp
  · rw [Numeral.toDouble, Numeral.toDecimal_none, List.take_append_drop, Numeral.magnitude_ofNat,
      List.length_drop, he]

theorem spelled_written {n : Nat} {e : Int} (hn : n ≠ 0) : Spelled (written ⟨n, e⟩) ⟨n, e⟩ := by
  have hne := Text.ofNat_ne_nil n
  have hhead := Text.head_ofNat hn
  rw [written]
  simp only
  split
  · cases ht : Text.ofNat n with
    | nil => exact absurd ht hne
    | cons c cs =>
      have hc : c ≠ CodePoint.ofChar '0' := by simpa [ht] using hhead
      cases cs with
      | nil => exact spelled_scientific ht hc .none
      | cons d cs =>
        have hf : Digits (d :: cs) :=
          ⟨by simp, fun b hb => Text.isDigit_of_mem_ofNat n b (by simp only [ht]; simp [hb])⟩
        exact spelled_scientific ht hc (.some hf)
  · split
    · next hlead => exact spelled_small hlead
    · next hlead =>
      split
      · next hlen => exact spelled_whole hn (by simp only [leading] at *; omega)
      · next hlen =>
        exact spelled_split hn (by omega) (by omega) (by simp only [leading] at *; omega)

end Decimal

namespace Double
open Grammar

theorem exists_decimal {negative : Bool} {m q : Nat} (h : Canonical m q) (hm : m ≠ 0) :
    ∃ n e, n ≠ 0 ∧ (finite negative m q h).shortest = ⟨n, e⟩ ∧
      Decimal.toDouble negative ⟨n, e⟩ = finite negative m q h := by
  have hread : (finite negative m q h).shortest.toDouble negative = finite negative m q h :=
    toDouble_shortest h hm
  generalize (finite negative m q h).shortest = x at hread
  obtain ⟨n, e⟩ := x
  refine ⟨n, e, ?_, rfl, hread⟩
  rintro rfl
  rw [Decimal.toDouble_zero, ofRatio_zero, finite.injEq] at hread
  exact hm hread.2.1.symm

theorem isInteger_eq_false {negative : Bool} {w ds : Text} {e : Option (Bool × Text)}
    (h : ds ≠ [] ∨ e ≠ none) : (⟨negative, w, ds, e⟩ : Numeral).isInteger = false := by
  cases ds with
  | cons c ds => rfl
  | nil =>
    cases e with
    | some e => rfl
    | none => simp at h

/-- A finite double is written as a number that is none of the integers and denotes the double. -/
theorem number_written {d : Double} (h : d.isFinite = true) :
    ∃ m, Number d.written m ∧ m.isInteger = false ∧ m.toDouble = d := by
  cases d with
  | nan => cases h
  | infinite s => cases h
  | finite negative m q hc =>
    rw [written]
    by_cases hm : m = 0
    · subst hm
      have hq : q = 0 := by simpa [mantissaFull] using hc.2.2
      subst hq
      have hf : Fraction ("." ++ "0") "0" := .some ⟨by decide, by decide⟩
      have hnumber := Number.mk (sign_spelled negative) .zero hf .none
      have hzero : Numeral.magnitude ("0" ++ "0") = 0 := by decide
      refine ⟨⟨negative, "0", "0", none⟩, by simpa [Text.ofString] using hnumber, rfl, ?_⟩
      rw [Numeral.toDouble, Numeral.toDecimal_none, hzero, Decimal.toDouble_zero, ofRatio_zero]
    · obtain ⟨n, e, hn, hshort, hread⟩ := exists_decimal hc hm
      obtain ⟨w, f, ds, x, ex, hspelled, hw, hf, hx, hne, hdecimal⟩ := Decimal.spelled_written hn
      have hnumber := Number.mk (sign_spelled negative) hw hf hx
      refine ⟨_, ?_, isInteger_eq_false hne, (hdecimal negative).trans hread⟩
      rw [if_neg hm, hshort, hspelled]
      simpa using hnumber

end Double

end JsonDesk
