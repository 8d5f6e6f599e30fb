import JsonDesk.Stats
import JsonDesk.Proofs.Counts
import JsonDesk.Proofs.NumberText
import JsonDesk.Proofs.Quantities
import Mathlib.Tactic.Linarith

/-!
What sizes say.  The text of a count of bytes is read back as a number with a unit; it is the count
to half a tenth of the unit, and more bytes are never shown as less.  The unit is chosen before the
number is rounded, so just below the last unit the number may be rounded up to it.
-/

set_option autoImplicit false

namespace JsonDesk

/-! ### Sizes as they are read -/

/-- The number that the digits and the exponent stand for. -/
def Decimal.value (d : Decimal) : ℚ := d.digits * 10 ^ d.exponent

def Numeral.value (m : Numeral) : ℚ :=
  if m.negative then -m.toDecimal.value else m.toDecimal.value

structure Size where
  number : ℚ
  unit : Nat

namespace Size

def bytes (s : Size) : ℚ := s.number * s.unit

def read? (t : Text) : Option Size :=
  match Numeral.read? t with
  | some (m, c :: unit) =>
    if c = ' ' then (sizeUnits.idxOf? unit).map fun i => ⟨m.value, 1024 ^ i⟩ else none
  | _ => none

def shown (tenths steps : Nat) : Text :=
  (if tenths % 10 = 0 then Text.ofNat (tenths / 10)
    else Text.ofNat (tenths / 10) ++ "." ++ Text.ofNat (tenths % 10)) ++ " " ++
    sizeUnits.getD steps []

theorem number_shown (tenths : Nat) : ∃ m : Numeral, m.value = tenths / 10 ∧
    Grammar.Number (if tenths % 10 = 0 then Text.ofNat (tenths / 10)
      else Text.ofNat (tenths / 10) ++ "." ++ Text.ofNat (tenths % 10)) m := by
  split
  · next h =>
    refine ⟨⟨false, Text.ofNat (tenths / 10), [], none⟩, ?_, ?_⟩
    · obtain ⟨k, rfl⟩ := Nat.dvd_of_mod_eq_zero h
      simp [Numeral.value, Numeral.toDecimal_none, Decimal.value, Numeral.magnitude_ofNat]
    · simpa using Grammar.Number.mk .plus (Grammar.whole_ofNat (tenths / 10)) .none .none
  · next h =>
    refine ⟨⟨false, Text.ofNat (tenths / 10), Text.ofNat (tenths % 10), none⟩, ?_, ?_⟩
    · have hlength : (Text.ofNat (tenths % 10)).length = 1 := by
        rw [Text.ofNat_of_lt (Nat.mod_lt _ (by decide)), List.length_singleton]
      have hmagnitude : Numeral.magnitude
          (Text.ofNat (tenths / 10) ++ Text.ofNat (tenths % 10)) = tenths := by
        rw [Numeral.magnitude_append, Numeral.magnitude_ofNat, Numeral.magnitude_ofNat, hlength]
        omega
      simp [Numeral.value, Numeral.toDecimal_none, Decimal.value, hmagnitude, hlength,
        div_eq_mul_inv]
    · simpa using Grammar.Number.mk .plus (Grammar.whole_ofNat (tenths / 10))
        (.some (Grammar.digits_ofNat (tenths % 10))) .none

theorem read?_shown (tenths : Nat) {steps : Nat} (h : steps < 3) :
    read? (shown tenths steps) = some ⟨tenths / 10, 1024 ^ steps⟩ := by
  obtain ⟨m, hvalue, hnumber⟩ := number_shown tenths
  have hends : Numeral.Ends (" " ++ sizeUnits.getD steps []) := by
    simp [Numeral.Ends, Numeral.NoDigit, Text.ofString]
    decide
  have hindex : sizeUnits.idxOf? (sizeUnits.getD steps []) = some steps := by
    have hall : ∀ i ∈ List.range 3, sizeUnits.idxOf? (sizeUnits.getD i []) = some i := by decide
    exact hall steps (List.mem_range.mpr h)
  unfold read? shown
  rw [List.append_assoc, Numeral.read?_of hnumber hends]
  show (sizeUnits.idxOf? (sizeUnits.getD steps [])).map _ = _
  rw [hindex, hvalue]
  rfl

end Size

/-! ### Sizes as they are shown -/

namespace Double

open Size

theorem pow_unit (steps : Nat) :
    Nat.pow 2 (unitPlaces + 10 * steps) = unitsPerOne * 1024 ^ steps := by
  have hten : (1024 : Nat) = 2 ^ 10 := rfl
  rw [hten, ← Nat.pow_mul]
  unfold unitsPerOne
  generalize unitPlaces = k
  exact Nat.pow_add 2 k _

variable {m q : Nat} (h : Canonical m q)

theorem reaches_finite (steps : Nat) : (finite false m q h).reaches steps =
    decide (unitsPerOne * 1024 ^ steps ≤ m * 2 ^ q) := by
  rw [← pow_unit]
  rfl

theorem withoutZero (w : Text) {r : Nat} (hr : r < 10) :
    (if (w ++ "." ++ Text.ofNat r).endsWith ".0" then
      (w ++ "." ++ Text.ofNat r).take ((w ++ "." ++ Text.ofNat r).length - 2)
      else w ++ "." ++ Text.ofNat r) = if r = 0 then w else w ++ "." ++ Text.ofNat r := by
  have hsplit : w ++ "." ++ Text.ofNat r =
      w ++ [CodePoint.ofChar '.', CodePoint.ofDigit r] := by
    rw [Text.ofNat_of_lt hr, List.append_assoc]
    rfl
  have hends : (w ++ "." ++ Text.ofNat r).endsWith ".0" = decide (r = 0) := by
    have hall : ∀ e ∈ List.range 10,
        (CodePoint.ofChar '0' == CodePoint.ofDigit e) = decide (e = 0) := by decide
    rw [hsplit]
    simp [Text.endsWith, List.isSuffixOf, List.isPrefixOf, Text.ofString,
      hall r (List.mem_range.mpr hr)]
  rw [hends, hsplit]
  by_cases h0 : r = 0
  · simp [h0]
  · simp [h0]

theorem sizeText_finite {steps : Nat} (hsteps : steps =
      if unitsPerOne * 1024 ^ 2 ≤ m * 2 ^ q then 2
      else if unitsPerOne * 1024 ^ 1 ≤ m * 2 ^ q then 1 else 0) :
    (finite false m q h).sizeText =
      shown (roundDiv (m * 2 ^ q * 10) (unitsPerOne * 1024 ^ steps)) steps := by
  have hreaches : (if (finite false m q h).reaches 2 then 2
      else if (finite false m q h).reaches 1 then 1 else 0) = steps := by
    simp only [reaches_finite, decide_eq_true_eq, hsteps]
  unfold sizeText
  simp only [hreaches]
  rw [← pow_unit]
  have hfixed : (finite false m q h).fixed 1 (10 * steps) =
      Text.ofNat (roundDiv (m * 2 ^ q * 10) (Nat.pow 2 (unitPlaces + 10 * steps)) / 10) ++ "." ++
        Text.ofNat (roundDiv (m * 2 ^ q * 10) (Nat.pow 2 (unitPlaces + 10 * steps)) % 10) := by
    have hone : Nat.pow 10 1 = 10 := rfl
    simp only [fixed, hone, sign, units, Nat.pow_eq, Bool.false_eq_true, if_false, List.nil_append]
    rw [Text.ofNatPadded, Text.ofNat_of_lt (Nat.mod_lt _ (by decide)), List.length_singleton,
      Nat.sub_self]
    rfl
  rw [hfixed, withoutZero _ (Nat.mod_lt _ (by decide))]
  rfl

end Double

namespace Size

/-- The units that are passed over for a count: the largest that the count has is taken. -/
def unitSteps (n : Nat) : Nat := if 1024 ^ 2 ≤ n then 2 else if 1024 ^ 1 ≤ n then 1 else 0

theorem unitSteps_lt (n : Nat) : unitSteps n < 3 := by
  unfold unitSteps
  split
  · decide
  · split <;> decide

theorem unitSteps_mono {n m : Nat} (h : n ≤ m) : unitSteps n ≤ unitSteps m := by
  unfold unitSteps
  split
  · next hn => rw [if_pos (Nat.le_trans hn h)]
  · split
    · next hn =>
      rw [if_pos (Nat.le_trans hn h)]
      split <;> decide
    · exact Nat.zero_le _

theorem unit_le {n : Nat} (hn : n ≠ 0) : 1024 ^ unitSteps n ≤ n := by
  unfold unitSteps
  split
  · assumption
  · split
    · assumption
    · exact Nat.one_le_iff_ne_zero.mpr hn

theorem lt_nextUnit (n : Nat) : unitSteps n = 2 ∨ n < 1024 * 1024 ^ unitSteps n := by
  unfold unitSteps
  split
  · exact .inl rfl
  · split
    · next h _ => exact .inr (Nat.not_le.mp h)
    · next h => exact .inr (Nat.not_le.mp h)

/-- The tenths of its unit that a count is rounded to. -/
def tenths (n : Nat) : Nat := roundDiv (n * 10) (1024 ^ unitSteps n)

theorem formatBytesLoose_count {n : Nat} (hn : n ≠ 0) : formatBytesLoose (.int n) =
    ((Double.ofInt? n).map fun d => Except.ok d.sizeText).getD (.error .doubleOverflow) := by
  have hpos : ¬ ((n : Int) ≤ 0) := by omega
  rw [formatBytesLoose, Json.numeric?]
  simp only [hpos, if_false]
  generalize Double.ofInt? n = d
  cases d <;> rfl

theorem formatBytesLoose_infinite {n : Nat} (hn : n ≠ 0)
    (hd : Double.ofRatio false n 1 = .infinite false) :
    formatBytesLoose (.int n) = .error .doubleOverflow := by
  rw [formatBytesLoose_count hn, (Double.ofInt?_count hd).2 rfl]
  rfl

theorem formatBytesLoose_finite {n : Nat} (hn : n ≠ 0) {m q : Nat} {hc : Canonical m q}
    (hd : Double.ofRatio false n 1 = .finite false m q hc) :
    formatBytesLoose (.int n) = .ok (Double.finite false m q hc).sizeText := by
  rw [formatBytesLoose_count hn, (Double.ofInt?_count hd).1 rfl]
  rfl

theorem formatBytes_small {n : Nat} (h : n < mantissaEnd) :
    formatBytesLoose (.int n) = .ok (formatBytes n) ∧
      formatBytes n = shown (tenths n) (unitSteps n) := by
  by_cases hn : n = 0
  · subst hn
    exact ⟨rfl, by decide +kernel⟩
  · obtain ⟨m, q, hc, hd, hunits⟩ := Double.ofRatio_smallCount hn h
    have hreaches (steps : Nat) :
        Double.unitsPerOne * 1024 ^ steps ≤ m * 2 ^ q ↔ 1024 ^ steps ≤ n := by
      rw [hunits, Nat.mul_comm n]
      exact Nat.mul_le_mul_left_iff Double.unitsPerOne_pos
    have hsteps : unitSteps n =
        if Double.unitsPerOne * 1024 ^ 2 ≤ m * 2 ^ q then 2
        else if Double.unitsPerOne * 1024 ^ 1 ≤ m * 2 ^ q then 1 else 0 := by
      simp only [hreaches]
      rfl
    have hsize := Double.sizeText_finite hc hsteps
    have htenths : roundDiv (m * 2 ^ q * 10) (Double.unitsPerOne * 1024 ^ unitSteps n) =
        tenths n := by
      have hpos := Double.unitsPerOne_pos
      rw [hunits]
      generalize Double.unitsPerOne = k at hpos ⊢
      rw [Nat.mul_right_comm, Nat.mul_comm k]
      exact roundDiv_mul_mul_right _ _ hpos
    rw [htenths] at hsize
    refine ⟨?_, ?_⟩
    · rw [formatBytesLoose_finite hn hd, formatBytes, if_neg hn, hd]
    · rw [formatBytes, if_neg hn, hd, hsize]

theorem formatBytes_large {n : Nat} (h : mantissaEnd ≤ n) :
    (formatBytesLoose (.int n) = .error .doubleOverflow ∧ 2 ^ 1023 ≤ n) ∨
      ∃ tenths, formatBytesLoose (.int n) = .ok (shown tenths 2) ∧ 10 ≤ tenths := by
  have hn : n ≠ 0 := by
    rintro rfl
    exact absurd h (by decide)
  rcases Double.ofRatio_largeCount h with ⟨hd, hlarge⟩ | ⟨m, q, hc, hd, hunits⟩
  · exact .inl ⟨formatBytesLoose_infinite hn hd, hlarge⟩
  · have hreach {k : Nat} (hk : k ≤ mantissaEnd) : Double.unitsPerOne * k ≤ m * 2 ^ q := by
      refine Nat.le_trans ?_ hunits
      rw [Nat.mul_comm]
      exact Nat.mul_le_mul_right _ hk
    have hpos := Double.unitsPerOne_pos
    have hsize := Double.sizeText_finite hc (if_pos (hreach (by decide))).symm
    refine .inr ⟨_, by rw [formatBytesLoose_finite hn hd, ← hsize], ?_⟩
    have hmore := hreach (by decide : 1024 ^ 2 ≤ mantissaEnd)
    generalize Double.unitsPerOne = k at hpos hmore ⊢
    refine le_roundDiv (Nat.mul_pos hpos (by decide)) ?_
    rw [Nat.mul_comm 10]
    exact Nat.mul_le_mul_right 10 hmore

/-- A count and what is shown for it differ by half a tenth of the unit at most. -/
theorem tenths_near (n : Nat) :
    2 * (n * 10) ≤ 2 * (tenths n * 1024 ^ unitSteps n) + 1024 ^ unitSteps n ∧
      2 * (tenths n * 1024 ^ unitSteps n) ≤ 2 * (n * 10) + 1024 ^ unitSteps n :=
  roundDiv_near (n * 10) (Nat.pow_pos (by decide))

theorem tenths_of_lt {n : Nat} (h : n < 1024) : tenths n = n * 10 ∧ unitSteps n = 0 := by
  have hsteps : unitSteps n = 0 := by
    rw [unitSteps, if_neg (by omega), if_neg (by omega)]
  refine ⟨?_, hsteps⟩
  rw [tenths, hsteps, Nat.pow_zero]
  have hwhole := roundDiv_mul_right (n * 10) Nat.one_pos
  rwa [Nat.mul_one] at hwhole

theorem ten_le_tenths {n : Nat} (hn : n ≠ 0) : 10 ≤ tenths n := by
  refine le_roundDiv (Nat.pow_pos (by decide)) ?_
  rw [Nat.mul_comm 10]
  exact Nat.mul_le_mul_right _ (unit_le hn)

theorem tenths_le (n : Nat) : unitSteps n = 2 ∨ tenths n ≤ 10240 := by
  refine (lt_nextUnit n).imp_right fun h => roundDiv_le (Nat.pow_pos (by decide)) ?_
  omega

theorem tenths_lt_or_full (n : Nat) :
    unitSteps n = 2 ∨ tenths n < 10240 ∨ tenths n = 10240 ∧ unitSteps n = 1 := by
  rcases tenths_le n with hlast | hle
  · exact .inl hlast
  · rcases Nat.eq_or_lt_of_le hle with heq | hless
    · refine (Decidable.em (1024 ^ 2 ≤ n)).imp (fun hlast => ?_) fun hlast => .inr ⟨heq, ?_⟩
      · rw [unitSteps, if_pos hlast]
      · have hlow : ¬ n < 1024 := fun h => by
          have := (tenths_of_lt h).1
          omega
        rw [unitSteps, if_neg hlast, if_pos (by omega)]
    · exact .inr (.inl hless)

theorem tenths_mono {n m : Nat} (h : n ≤ m) :
    tenths n * 1024 ^ unitSteps n ≤ tenths m * 1024 ^ unitSteps m := by
  rcases Nat.eq_or_lt_of_le (unitSteps_mono h) with hsame | hless
  · rw [tenths, tenths, hsame]
    have hten : n * 10 ≤ m * 10 := Nat.mul_le_mul_right 10 h
    exact Nat.mul_le_mul_right _ (roundDiv_mono hten (Nat.pow_pos (by decide)))
  · have hm : m ≠ 0 := by
      rintro rfl
      exact absurd hless (Nat.not_lt_zero _)
    have hn : tenths n ≤ 10240 :=
      (tenths_le n).resolve_left fun hlast => by
        have := unitSteps_lt m
        omega
    calc tenths n * 1024 ^ unitSteps n ≤ 10 * 1024 * 1024 ^ unitSteps n :=
          Nat.mul_le_mul_right _ hn
      _ = 10 * 1024 ^ (unitSteps n + 1) := by rw [Nat.pow_succ']; omega
      _ ≤ 10 * 1024 ^ unitSteps m :=
          Nat.mul_le_mul_left _ (Nat.pow_le_pow_right (by decide) hless)
      _ ≤ tenths m * 1024 ^ unitSteps m := Nat.mul_le_mul_right _ (ten_le_tenths hm)

/-- Of the counts with the middle unit, these are rounded up to the next. -/
theorem tenths_eq_full {n : Nat} : tenths n = 10240 ∧ unitSteps n = 1 ↔
    1048525 ≤ n ∧ n < 1024 ^ 2 := by
  constructor
  · rintro ⟨htenths, hsteps⟩
    refine ⟨?_, (lt_nextUnit n).elim (fun h => absurd (h.symm.trans hsteps) (by decide)) ?_⟩
    · by_contra hless
      have hmono : tenths n ≤ roundDiv 10485240 1024 := by
        rw [tenths, hsteps]
        exact roundDiv_mono (by omega) (by decide)
      rw [htenths] at hmono
      exact absurd hmono (by decide)
    · rw [hsteps]
      exact id
  · rintro ⟨hlow, hhigh⟩
    have hsteps : unitSteps n = 1 := by
      rw [unitSteps, if_neg (Nat.not_le.mpr hhigh), if_pos (by omega)]
    refine ⟨Nat.le_antisymm ((tenths_le n).resolve_left (by rw [hsteps]; decide)) ?_, hsteps⟩
    calc 10240 = roundDiv 10485250 1024 := by decide
      _ ≤ tenths n := by
        rw [tenths, hsteps]
        exact roundDiv_mono (by omega) (by decide)

theorem shown_eq_iff {tenths steps : Nat} (h : steps < 3) {tenths' steps' : Nat} (h' : steps' < 3) :
    shown tenths steps = shown tenths' steps' ↔ tenths = tenths' ∧ steps = steps' := by
  constructor
  · intro hshown
    have hread := read?_shown tenths h
    rw [hshown, read?_shown tenths' h', Option.some.injEq, Size.mk.injEq,
      div_left_inj' (by decide), Nat.cast_inj] at hread
    exact ⟨hread.1.symm, (Nat.pow_right_injective (by decide) hread.2).symm⟩
  · rintro ⟨rfl, rfl⟩
    rfl

theorem bytes_tenths (tenths unit : Nat) :
    (⟨tenths / 10, unit⟩ : Size).bytes = ((tenths * unit : Nat) : ℚ) / 10 := by
  rw [bytes, Nat.cast_mul]
  ring

/-- A size denotes a count of bytes to half a tenth of its unit, exactly where the unit is one byte,
and larger counts never denote less. -/
theorem near_and_monotone {n m : Nat} (hle : n ≤ m) (hm : m < 2 ^ 53) :
    formatBytesLoose (.int n) = .ok (formatBytes n) ∧
      formatBytesLoose (.int m) = .ok (formatBytes m) ∧
      ∃ s t, read? (formatBytes n) = some s ∧ read? (formatBytes m) = some t ∧
        |s.bytes - n| ≤ s.unit / 20 ∧ (n < 1024 → s.bytes = n) ∧ s.bytes ≤ t.bytes := by
  obtain ⟨hn, hshown⟩ := formatBytes_small (Nat.lt_of_le_of_lt hle hm)
  obtain ⟨hm, hshown'⟩ := formatBytes_small hm
  refine ⟨hn, hm, _, _, by rw [hshown, read?_shown _ (unitSteps_lt n)],
    by rw [hshown', read?_shown _ (unitSteps_lt m)], ?_, ?_, ?_⟩
  · obtain ⟨hlow, hhigh⟩ := tenths_near n
    rw [bytes_tenths, abs_le]
    have hlow : (2 * (n * 10) : ℚ) ≤
        2 * ((tenths n * 1024 ^ unitSteps n : Nat) : ℚ) + (1024 ^ unitSteps n : Nat) := by
      exact_mod_cast hlow
    have hhigh : 2 * ((tenths n * 1024 ^ unitSteps n : Nat) : ℚ) ≤
        2 * (n * 10) + (1024 ^ unitSteps n : Nat) := by
      exact_mod_cast hhigh
    constructor
    · show -(((1024 ^ unitSteps n : Nat) : ℚ) / 20) ≤ _
      linarith
    · show _ ≤ ((1024 ^ unitSteps n : Nat) : ℚ) / 20
      linarith
  · intro h
    rw [bytes_tenths, (tenths_of_lt h).1, (tenths_of_lt h).2, Nat.pow_zero, Nat.mul_one,
      Nat.cast_mul]
    exact mul_div_cancel_right₀ _ (by decide)
  · rw [bytes_tenths, bytes_tenths]
    exact div_le_div_of_nonneg_right (Nat.cast_le.mpr (tenths_mono hle)) (by decide)

/-- Where the unit changes, more is not shown as less. -/
theorem near_and_monotone_at_unit :
    (1048575 : Nat) ≤ 1048576 ∧ (1048576 : Nat) < 2 ^ 53 ∧
      formatBytes 1048575 = "1024 KB" ∧ formatBytes 1048576 = "1 MB" ∧
      ∃ s t, read? (formatBytes 1048575) = some s ∧ read? (formatBytes 1048576) = some t ∧
        |s.bytes - (1048575 : Nat)| ≤ s.unit / 20 ∧ s.bytes ≤ t.bytes := by
  obtain ⟨-, -, s, t, hs, ht, hnear, -, hle⟩ :=
    near_and_monotone (by decide : 1048575 ≤ 1048576) (by decide : 1048576 < 2 ^ 53)
  exact ⟨by decide, by decide, by decide +kernel, by decide +kernel, s, t, hs, ht, hnear, hle⟩

/-- At least one byte is shown with a number of at least one, in the largest unit that there is as
much of.  The number is less than the next unit, except for the counts that are rounded up to it
from the middle unit. -/
theorem fits_or_rounded_up {n : Nat} (hn : 1 ≤ n) :
    (formatBytesLoose (.int n) = .error .doubleOverflow ∧ 2 ^ 1023 ≤ n) ∨
      ∃ t s, formatBytesLoose (.int n) = .ok t ∧ read? t = some s ∧
        1 ≤ s.number ∧ s.unit ≤ n ∧ (s.unit = 1024 ^ 2 ∨ n < 1024 * s.unit) ∧
        (s.unit = 1024 ^ 2 ∨ s.number < 1024 ∨ t = "1024 KB") ∧
        (t = "1024 KB" ↔ 1048525 ≤ n ∧ n < 1024 ^ 2) := by
  have hfull : "1024 KB" = shown 10240 1 := by decide +kernel
  rcases Nat.lt_or_ge n mantissaEnd with hsmall | hlarge
  · have hne : n ≠ 0 := by omega
    obtain ⟨hok, hshown⟩ := formatBytes_small hsmall
    have hlt := unitSteps_lt n
    rw [hshown] at hok
    refine .inr ⟨_, _, hok, read?_shown _ hlt, ?_, unit_le hne, ?_, ?_, ?_⟩
    · rw [le_div_iff₀ (by decide), one_mul]
      exact_mod_cast ten_le_tenths hne
    · exact (lt_nextUnit n).imp_left fun h => congrArg (1024 ^ ·) h
    · refine (tenths_lt_or_full n).imp (congrArg (1024 ^ ·)) (Or.imp (fun hless => ?_) ?_)
      · rw [div_lt_iff₀ (by decide)]
        exact_mod_cast hless
      · rintro ⟨htenths, hsteps⟩
        rw [hfull, htenths, hsteps]
    · rw [hfull, shown_eq_iff hlt (by decide), tenths_eq_full]
  · refine (formatBytes_large hlarge).imp_right ?_
    rintro ⟨tenths, hok, hmany⟩
    refine ⟨_, _, hok, read?_shown _ (by decide), ?_, ?_, .inl rfl, .inl rfl, ?_⟩
    · rw [le_div_iff₀ (by decide), one_mul]
      exact_mod_cast hmany
    · exact Nat.le_trans (by decide : 1024 ^ 2 ≤ mantissaEnd) hlarge
    · rw [hfull, shown_eq_iff (by decide) (by decide)]
      constructor
      · exact fun h => absurd h.2 (by decide)
      · intro h
        exact absurd (Nat.lt_of_le_of_lt hlarge h.2) (by decide)

/-- One byte less than the last unit is shown as 1024 of the unit before. -/
theorem fits_or_rounded_up_below_unit :
    (1 : Nat) ≤ 1048575 ∧ ∃ s, formatBytesLoose (.int 1048575) = .ok "1024 KB" ∧
      read? "1024 KB" = some s ∧ 1 ≤ s.number ∧ s.unit ≤ 1048575 ∧ ¬ s.number < 1024 ∧
      1048575 < 1024 * s.unit := by
  refine ⟨by decide, ?_⟩
  rcases fits_or_rounded_up (by decide : 1 ≤ 1048575) with
    ⟨-, hlarge⟩ | ⟨t, s, hok, hread, hone, hunit, -, -, hfull⟩
  · have hmore {k : Nat} (hk : 20 ≤ k) : 2 ^ 20 ≤ 2 ^ k := Nat.pow_le_pow_right (by decide) hk
    exact absurd (Nat.le_trans (hmore (by decide)) hlarge) (by decide)
  · obtain rfl := hfull.mpr ⟨by decide, by decide⟩
    have hsize : s = ⟨(10240 : Nat) / 10, 1024 ^ 1⟩ := by
      have hshown := read?_shown 10240 (by decide : 1 < 3)
      rw [show shown 10240 1 = "1024 KB" by decide +kernel, hread] at hshown
      exact Option.some.inj hshown
    subst hsize
    refine ⟨_, hok, hread, hone, hunit, ?_, by decide⟩
    norm_num

end Size

end JsonDesk
