import JsonDesk.Proofs.RoundTrip
import JsonDesk.Text.Utf8

set_option autoImplicit false

namespace JsonDesk

open Json (Clean)

namespace CodePoint

theorem isSurrogate_eq_false_iff {c : CodePoint} :
    c.isSurrogate = false ↔ c.val < 0xD800 ∨ 0xDFFF < c.val := by
  simp only [isSurrogate, decide_eq_false_iff_not]
  omega

theorem not_surrogate_ofNat {n : Nat} (h : n < 0xD800 ∨ 0xDFFF < n) :
    (ofNat n).isSurrogate = false := by
  rw [isSurrogate_eq_false_iff]
  unfold ofNat
  split
  · exact h
  · exact .inr (by decide)

theorem toNat_continuation (n : Nat) : (continuation n).toNat = 0x80 + n % 64 := by
  have hlt : 0x80 + n % 64 < 256 := by omega
  simp only [continuation, UInt8.toNat_ofNat']
  omega

end CodePoint

namespace Utf8

open CodePoint

theorem tail_continuation {need value low high n : Nat} (bs : List UInt8)
    (hlow : low ≤ 0x80 + n % 64) (hhigh : 0x80 + n % 64 ≤ high) :
    tail (need + 1) value low high (continuation n :: bs) =
      tail need (value * 64 + n % 64) 0x80 0xBF bs := by
  have hmod : (0x80 + n % 64) % 64 = n % 64 := by omega
  rw [tail, toNat_continuation, if_pos ⟨hlow, hhigh⟩, hmod]

theorem toNat_ofNat {n : Nat} (h : n < 256) : (UInt8.ofNat n).toNat = n := by
  rw [UInt8.toNat_ofNat']
  exact Nat.mod_eq_of_lt h

theorem sequence_utf8 {c : CodePoint} (hc : c.isSurrogate = false) (bs : List UInt8) :
    ∃ b rest, c.utf8 = b :: rest ∧ sequence b (rest ++ bs) = (some c, bs) := by
  have hlt := c.isLt
  have hsurrogate := isSurrogate_eq_false_iff.mp hc
  have hself {m : Nat} (hm : m = c.val) : (some (CodePoint.ofNat m), bs) = (some c, bs) := by
    rw [hm, Json.ofNat_val]
  unfold utf8
  dsimp only
  -- one octet, two, three or four
  split
  · next h =>
    refine ⟨_, _, rfl, ?_⟩
    simp only [sequence, toNat_ofNat (show c.val < 256 by omega), if_pos h]
    exact hself rfl
  · split
    · next h₁ h₂ =>
      refine ⟨_, _, rfl, ?_⟩
      simp only [sequence, toNat_ofNat (show 0xC0 + c.val / 64 < 256 by omega)]
      rw [if_neg (by omega), if_neg (by omega), if_pos (by omega), List.cons_append,
        tail_continuation _ (by omega) (by omega)]
      exact hself (by omega)
    · split
      · next h₁ h₂ h₃ =>
        refine ⟨_, _, rfl, ?_⟩
        simp only [sequence, toNat_ofNat (show 0xE0 + c.val / 4096 < 256 by omega)]
        rw [if_neg (by omega), if_neg (by omega), if_neg (by omega), if_pos (by omega),
          List.cons_append, List.cons_append, tail_continuation _ ?_ ?_,
          tail_continuation _ (by omega) (by omega)]
        · exact hself (by omega)
        · split <;> omega
        · split <;> omega
      · next h₁ h₂ h₃ =>
        refine ⟨_, _, rfl, ?_⟩
        simp only [sequence, toNat_ofNat (show 0xF0 + c.val / 262144 < 256 by omega)]
        rw [if_neg (by omega), if_neg (by omega), if_neg (by omega), if_neg (by omega),
          if_pos (by omega), List.cons_append, List.cons_append, List.cons_append,
          tail_continuation _ ?_ ?_, tail_continuation _ (by omega) (by omega),
          tail_continuation _ (by omega) (by omega)]
        · exact hself (by omega)
        · split <;> omega
        · split <;> omega

section

variable {need value low high : Nat} {bs rest : List UInt8} {c : CodePoint}

theorem exists_of_tail (h : tail (need + 1) value low high bs = (some c, rest)) :
    ∃ m bs', low ≤ m ∧ m ≤ high ∧
      tail need (value * 64 + m % 64) 0x80 0xBF bs' = (some c, rest) := by
  cases bs with
  | nil => cases h
  | cons b bs =>
    rw [tail] at h
    split at h
    · next hb => exact ⟨b.toNat, bs, hb.1, hb.2, h⟩
    · cases h

theorem not_surrogate_of_sequence {b : UInt8} (h : sequence b bs = (some c, rest)) :
    c.isSurrogate = false := by
  have hdone {n : Nat} (hn : n < 0xD800 ∨ 0xDFFF < n) {bs : List UInt8}
      (h : tail 0 n 0x80 0xBF bs = (some c, rest)) : c.isSurrogate = false := by
    cases h
    exact not_surrogate_ofNat hn
  unfold sequence at h
  dsimp only at h
  split at h
  · cases h
    exact not_surrogate_ofNat (by omega)
  · split at h
    · cases h
    · split at h
      · obtain ⟨m, bs', -, -, h⟩ := exists_of_tail h
        exact hdone (by omega) h
      · split at h
        · next hn =>
          obtain ⟨m, bs', hlow, hhigh, h⟩ := exists_of_tail h
          obtain ⟨k, bs'', -, -, h⟩ := exists_of_tail h
          refine hdone ?_ h
          -- the one octet behind which surrogates would lie has a bound of its own
          by_cases hED : b.toNat = 0xED
          · rw [if_neg (by omega)] at hlow
            rw [if_pos hED] at hhigh
            omega
          · omega
        · split at h
          · obtain ⟨m, bs', hlow, hhigh, h⟩ := exists_of_tail h
            obtain ⟨k, bs'', -, -, h⟩ := exists_of_tail h
            obtain ⟨l, bs''', -, -, h⟩ := exists_of_tail h
            refine hdone ?_ h
            by_cases hF0 : b.toNat = 0xF0
            · rw [if_pos hF0] at hlow
              rw [if_neg (by omega)] at hhigh
              omega
            · omega
          · cases h

end

/-! ### Octets that begin anew -/

section

variable {b : UInt8}

theorem tail_append_ascii (hb : b.toNat < 0x80) (bs r : List UInt8) (need value high : Nat)
    {low : Nat} (hlow : 0x80 ≤ low) : tail need value low high (bs ++ b :: r) =
      ((tail need value low high bs).1, (tail need value low high bs).2 ++ b :: r) := by
  induction need generalizing bs value low high with
  | zero => rfl
  | succ need ih =>
    cases bs with
    | nil => simp [tail, show ¬(low ≤ b.toNat ∧ b.toNat ≤ high) by omega]
    | cons a bs =>
      rw [List.cons_append, tail, tail]
      split
      · exact ih _ _ _ (Nat.le_refl _)
      · rfl

theorem sequence_append_ascii (hb : b.toNat < 0x80) (a : UInt8) (bs r : List UInt8) :
    sequence a (bs ++ b :: r) = ((sequence a bs).1, (sequence a bs).2 ++ b :: r) := by
  have htail (need value high : Nat) {low : Nat} (hlow : 0x80 ≤ low) :=
    tail_append_ascii hb bs r need value high hlow
  unfold sequence
  dsimp only
  repeat' split
  all_goals first
    | rfl
    | exact htail _ _ _ (by omega)

end

end Utf8

namespace Text

theorem ofUtf8?_go {t : Text} (ht : Clean t) (done : Text) :
    ofUtf8?.go (t.flatMap CodePoint.utf8) done = some (done.reverse ++ t) := by
  induction t generalizing done with
  | nil => simp [ofUtf8?.go]
  | cons c t ih =>
    obtain ⟨hc, ht⟩ := List.forall_mem_cons.mp ht
    obtain ⟨b, rest, hutf8, hsequence⟩ := Utf8.sequence_utf8 hc (t.flatMap CodePoint.utf8)
    rw [List.flatMap_cons, hutf8, List.cons_append, ofUtf8?.go]
    simp only [hsequence, ih ht]
    simp

theorem ofUtf8?_flatMap {t : Text} (ht : Clean t) : ofUtf8? (t.flatMap CodePoint.utf8) = some t :=
  ofUtf8?_go ht []

theorem clean_of_go {bs : List UInt8} {done t : Text} (hdone : Clean done)
    (h : ofUtf8?.go bs done = some t) : Clean t := by
  fun_induction ofUtf8?.go bs done with
  | case1 done =>
    cases h
    exact fun c hc => hdone c (List.mem_reverse.mp hc)
  | case2 done b bs c hc ih =>
    refine ih (List.forall_mem_cons.mpr ⟨?_, hdone⟩) h
    exact Utf8.not_surrogate_of_sequence (Prod.ext hc rfl)
  | case3 done b bs hc => cases h

theorem clean_of_ofUtf8? {bs : List UInt8} {t : Text} (h : ofUtf8? bs = some t) : Clean t :=
  clean_of_go Json.clean_nil h

/-! ### Whatever the octets are -/

theorem ofUtf8Lossy_go (bs : List UInt8) (done : Text) :
    ofUtf8Lossy.go bs done = done.reverse ++ ofUtf8Lossy bs := by
  induction hn : bs.length using Nat.strongRecOn generalizing bs done with
  | ind n ih =>
    cases bs with
    | nil => simp [ofUtf8Lossy, ofUtf8Lossy.go]
    | cons b bs =>
      have hlt : (Utf8.sequence b bs).2.length < n :=
        hn ▸ Nat.lt_succ_of_le (Utf8.length_sequence_le b bs)
      rw [ofUtf8Lossy, ofUtf8Lossy.go, ofUtf8Lossy.go, ih _ hlt _ _ rfl, ih _ hlt _ [_] rfl]
      simp

theorem ofUtf8Lossy_cons (b : UInt8) (bs : List UInt8) : ofUtf8Lossy (b :: bs) =
    (Utf8.sequence b bs).1.getD CodePoint.replacement :: ofUtf8Lossy (Utf8.sequence b bs).2 := by
  rw [ofUtf8Lossy, ofUtf8Lossy.go, ofUtf8Lossy_go]
  rfl

theorem ofUtf8Lossy_append {b : UInt8} (hb : b.toNat < 0x80) (front r : List UInt8) :
    ofUtf8Lossy (front ++ b :: r) = ofUtf8Lossy front ++ ofUtf8Lossy (b :: r) := by
  induction hn : front.length using Nat.strongRecOn generalizing front with
  | ind n ih =>
    cases front with
    | nil => simp [ofUtf8Lossy, ofUtf8Lossy.go]
    | cons a front =>
      have hlt : (Utf8.sequence a front).2.length < n :=
        hn ▸ Nat.lt_succ_of_le (Utf8.length_sequence_le a front)
      rw [List.cons_append, ofUtf8Lossy_cons, ofUtf8Lossy_cons, Utf8.sequence_append_ascii hb]
      dsimp only
      rw [ih _ hlt _ rfl, List.cons_append]

theorem ofUtf8Lossy_flatMap {t : Text} (ht : Clean t) :
    ofUtf8Lossy (t.flatMap CodePoint.utf8) = t := by
  induction t with
  | nil => simp [ofUtf8Lossy, ofUtf8Lossy.go]
  | cons c t ih =>
    obtain ⟨hc, ht⟩ := List.forall_mem_cons.mp ht
    obtain ⟨b, rest, hutf8, hsequence⟩ := Utf8.sequence_utf8 hc (t.flatMap CodePoint.utf8)
    rw [List.flatMap_cons, hutf8, List.cons_append, ofUtf8Lossy_cons, hsequence, ih ht]
    rfl

end Text

end JsonDesk
