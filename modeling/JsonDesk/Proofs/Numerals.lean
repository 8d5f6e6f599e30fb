import JsonDesk.Proofs.Grammar

set_option autoImplicit false

namespace JsonDesk

namespace CodePoint

@[simp] theorem ofChar_inj {a b : Char} : ofChar a = ofChar b ↔ a = b := by
  constructor
  · intro h
    exact Char.toNat_inj.mp (congrArg CodePoint.val h)
  · rintro rfl; rfl

theorem isDigit_iff {c : CodePoint} : c.isDigit = true ↔ 0x30 ≤ c.val ∧ c.val ≤ 0x39 := by
  unfold isDigit digit?
  split <;> simp_all

theorem not_isDigit_ofChar {a : Char} (h : ¬ (0x30 ≤ a.toNat ∧ a.toNat ≤ 0x39)) :
    (ofChar a).isDigit = false := by
  rw [← Bool.not_eq_true, isDigit_iff]
  exact h

theorem ne_of_isDigit {c : CodePoint} {a : Char} (hc : c.isDigit = true)
    (ha : ¬ (0x30 ≤ a.toNat ∧ a.toNat ≤ 0x39)) : c ≠ ofChar a := by
  rintro rfl
  rw [not_isDigit_ofChar ha] at hc
  cases hc

end CodePoint

namespace Numeral

def NoDigit (r : Text) : Prop := ∀ c ∈ r.head?, c.isDigit = false

/-- Nothing comes next that would make a number longer. -/
def Ends (r : Text) : Prop :=
  NoDigit r ∧ ∀ c ∈ r.head?, c ≠ CodePoint.ofChar '.' ∧ c ≠ CodePoint.ofChar 'e' ∧
    c ≠ CodePoint.ofChar 'E'

end Numeral

namespace Grammar
open Numeral

theorem Digits.head {t : Text} (h : Digits t) : ∃ c ∈ t.head?, c.isDigit := by
  obtain ⟨hne, hall⟩ := h
  cases t with
  | nil => exact absurd rfl hne
  | cons c t => exact ⟨c, rfl, hall c (by simp)⟩

theorem Whole.head_ne {w r : Text} {a : Char} (h : Whole w)
    (ha : ¬ (0x30 ≤ a.toNat ∧ a.toNat ≤ 0x39)) :
    (w ++ r).head? ≠ some (CodePoint.ofChar a) := by
  cases h with
  | zero =>
    have h0 : (CodePoint.ofChar '0').isDigit = true := by decide
    simpa [Text.ofString] using CodePoint.ne_of_isDigit h0 ha
  | @digits c t hc hd => simpa using CodePoint.ne_of_isDigit (hd.2 c (by simp)) ha

theorem Exponent.cases_head {x : Text} {e : Option (Bool × Text)} (h : Exponent x e) (r : Text) :
    x = [] ∨ ∃ c, (x ++ r).head? = some c ∧
      (c = CodePoint.ofChar 'e' ∨ c = CodePoint.ofChar 'E') := by
  cases h with
  | none => exact .inl rfl
  | unsigned hc => exact .inr ⟨_, rfl, hc⟩
  | plus hc => exact .inr ⟨_, rfl, hc⟩
  | minus hc => exact .inr ⟨_, rfl, hc⟩

theorem Exponent.noDigit {x r : Text} {e : Option (Bool × Text)} (h : Exponent x e)
    (hr : NoDigit r) : NoDigit (x ++ r) := by
  rcases h.cases_head r with rfl | ⟨c, hc, rfl | rfl⟩
  · exact hr
  · intro d hd; rw [hc] at hd; cases hd; decide
  · intro d hd; rw [hc] at hd; cases hd; decide

theorem Exponent.head_ne_point {x r : Text} {e : Option (Bool × Text)} (h : Exponent x e)
    (hr : Ends r) : (x ++ r).head? ≠ some (CodePoint.ofChar '.') := by
  rcases h.cases_head r with rfl | ⟨c, hc, rfl | rfl⟩
  · intro hd; exact (hr.2 _ hd).1 rfl
  · rw [hc]; decide
  · rw [hc]; decide

theorem Fraction.noDigit {f ds r : Text} (h : Fraction f ds) (hr : NoDigit r) :
    NoDigit (f ++ r) := by
  cases h with
  | none => exact hr
  | some hd => intro c hc; cases hc; decide

theorem Number.head {w : Text} {m : Numeral} (h : Number w m) :
    ∃ c t, w = c :: t ∧ (c = CodePoint.ofChar '-' ∨ c.isDigit) := by
  cases h with
  | @mk s w f x ds negative e hs hw hf hx =>
    cases hs with
    | minus => exact ⟨_, _, rfl, .inl rfl⟩
    | plus =>
      cases hw with
      | zero => exact ⟨_, _, rfl, .inr (by decide)⟩
      | @digits c t hc hd => exact ⟨c, _, rfl, .inr (hd.2 c (by simp))⟩

end Grammar

namespace Numeral
open Grammar

theorem NoDigit.takeWhile {r : Text} (h : NoDigit r) : r.takeWhile CodePoint.isDigit = [] := by
  cases r with
  | nil => rfl
  | cons c r => simp [h c rfl]

theorem NoDigit.dropWhile {r : Text} (h : NoDigit r) : r.dropWhile CodePoint.isDigit = r := by
  cases r with
  | nil => rfl
  | cons c r => simp [h c rfl]

theorem digits_of {t r : Text} (ht : ∀ c ∈ t, c.isDigit) (hr : NoDigit r) :
    digits (t ++ r) = t := by
  rw [digits, List.takeWhile_append_of_pos ht, hr.takeWhile, List.append_nil]

theorem afterDigits_of {t r : Text} (ht : ∀ c ∈ t, c.isDigit) (hr : NoDigit r) :
    afterDigits (t ++ r) = r := by
  rw [afterDigits, List.dropWhile_append_of_pos ht, hr.dropWhile]

theorem isDigit_of_mem_digits {t : Text} : ∀ c ∈ digits t, c.isDigit :=
  List.all_eq_true.mp List.all_takeWhile

/-! ### The parts of a number -/

theorem sign_sound (t : Text) : ∃ s, Sign s (sign t).1 ∧ t = s ++ (sign t).2 := by
  cases t with
  | nil => exact ⟨[], .plus, rfl⟩
  | cons c t =>
    by_cases hc : c = CodePoint.ofChar '-'
    · exact ⟨"-", by simpa [sign, hc] using Sign.minus, by simp [sign, hc, Text.ofString]⟩
    · exact ⟨[], by simpa [sign, hc] using Sign.plus, by simp [sign, hc]⟩

theorem sign_of {s r : Text} {negative : Bool} (h : Sign s negative)
    (hr : r.head? ≠ some (CodePoint.ofChar '-')) : sign (s ++ r) = (negative, r) := by
  cases h with
  | minus => rfl
  | plus =>
    cases r with
    | nil => rfl
    | cons c r => simp_all [sign]

theorem whole?_sound {t w r : Text} (h : whole? t = some (w, r)) : Whole w ∧ t = w ++ r := by
  cases t with
  | nil => simp [whole?] at h
  | cons c t =>
    rw [whole?] at h
    split at h
    · next hc =>
      simp only [Option.some.injEq, Prod.mk.injEq] at h
      obtain ⟨rfl, rfl⟩ := h
      subst hc
      exact ⟨.zero, rfl⟩
    · next hc =>
      split at h
      · next hd =>
        simp only [Option.some.injEq, Prod.mk.injEq] at h
        obtain ⟨rfl, rfl⟩ := h
        refine ⟨.digits hc ⟨by simp, ?_⟩, by simp [digits_append]⟩
        intro d hmem
        rcases List.mem_cons.mp hmem with rfl | hmem
        · exact hd
        · exact isDigit_of_mem_digits d hmem
      · simp at h

theorem whole?_of {w r : Text} (h : Whole w) (hr : NoDigit r) :
    whole? (w ++ r) = some (w, r) := by
  cases h with
  | zero => rfl
  | @digits c t hc hd =>
    have hall : ∀ d ∈ t, d.isDigit := fun d hmem => hd.2 d (by simp [hmem])
    simp [whole?, hc, hd.2 c (by simp), digits_of hall hr, afterDigits_of hall hr]

theorem fractionOf_sound (t : Text) :
    ∃ f, Fraction f (fractionOf t).1 ∧ t = f ++ (fractionOf t).2 := by
  cases t with
  | nil => exact ⟨[], .none, rfl⟩
  | cons c t =>
    rw [fractionOf]
    split
    · next h =>
      obtain ⟨rfl, hne⟩ := h
      exact ⟨_, .some ⟨hne, isDigit_of_mem_digits⟩, by simp [Text.ofString, digits_append]⟩
    · exact ⟨[], .none, rfl⟩

theorem fractionOf_of {f ds r : Text} (h : Fraction f ds) (hr : NoDigit r)
    (hp : r.head? ≠ some (CodePoint.ofChar '.')) : fractionOf (f ++ r) = (ds, r) := by
  cases h with
  | none =>
    cases r with
    | nil => rfl
    | cons c r => simp_all [fractionOf]
  | some hd =>
    have hshape : (("." : Text) ++ ds) ++ r = CodePoint.ofChar '.' :: (ds ++ r) := rfl
    rw [hshape, fractionOf, digits_of hd.2 hr, afterDigits_of hd.2 hr]
    simp [hd.1]

theorem exponentSign_of_digits {t : Text} (h : Digits t) (r : Text) :
    exponentSign (t ++ r) = (false, t ++ r) := by
  obtain ⟨c, hc, hd⟩ := h.head
  cases t with
  | nil => simp at hc
  | cons d t =>
    simp only [List.head?_cons, Option.mem_def, Option.some.injEq] at hc
    subst hc
    simp [exponentSign, CodePoint.ne_of_isDigit hd]

theorem exponentOf_sound (t : Text) :
    ∃ x, Exponent x (exponentOf t).1 ∧ t = x ++ (exponentOf t).2 := by
  cases t with
  | nil => exact ⟨[], .none, rfl⟩
  | cons c t =>
    simp only [exponentOf]
    split
    · next h =>
      obtain ⟨hc, hne⟩ := h
      cases t with
      | nil => simp [exponentSign, digits] at hne
      | cons d t =>
        rw [exponentSign] at hne ⊢
        split at hne
        · next hd =>
          subst hd
          exact ⟨_, .minus hc ⟨hne, isDigit_of_mem_digits⟩, by simp [Text.ofString, digits_append]⟩
        · next hm =>
          split at hne
          · next hd =>
            subst hd
            exact ⟨_, .plus hc ⟨hne, isDigit_of_mem_digits⟩, by
              simp [Text.ofString, digits_append]⟩
          · next hp =>
            simp only [hm, hp, if_false]
            exact ⟨_, .unsigned hc ⟨hne, isDigit_of_mem_digits⟩, by simp [digits_append]⟩
    · exact ⟨[], .none, rfl⟩

theorem exponentOf_of {x r : Text} {e : Option (Bool × Text)} (h : Exponent x e) (hr : NoDigit r)
    (he : ∀ c ∈ r.head?, c ≠ CodePoint.ofChar 'e' ∧ c ≠ CodePoint.ofChar 'E') :
    exponentOf (x ++ r) = (e, r) := by
  cases h with
  | none =>
    cases r with
    | nil => rfl
    | cons c r =>
      have h := he c rfl
      simp [exponentOf, h.1, h.2]
  | unsigned hc hd =>
    simp [exponentOf, exponentSign_of_digits hd, digits_of hd.2 hr, afterDigits_of hd.2 hr, hc,
      hd.1]
  | plus hc hd =>
    simp [exponentOf, exponentSign, Text.ofString, digits_of hd.2 hr, afterDigits_of hd.2 hr, hc,
      hd.1]
  | minus hc hd =>
    simp [exponentOf, exponentSign, Text.ofString, digits_of hd.2 hr, afterDigits_of hd.2 hr, hc,
      hd.1]

/-! ### Whole numbers -/

theorem read?_sound {t r : Text} {m : Numeral} (h : read? t = some (m, r)) :
    ∃ w, Number w m ∧ t = w ++ r := by
  obtain ⟨s, hs, hsign⟩ := sign_sound t
  simp only [read?] at h
  split at h
  · simp at h
  · next w u hw =>
    simp only [Option.some.injEq, Prod.mk.injEq] at h
    obtain ⟨rfl, rfl⟩ := h
    obtain ⟨hwhole, hu⟩ := whole?_sound hw
    obtain ⟨f, hf, hfrac⟩ := fractionOf_sound u
    obtain ⟨x, hx, hexp⟩ := exponentOf_sound (fractionOf u).2
    refine ⟨_, .mk hs hwhole hf hx, ?_⟩
    rw [List.append_assoc, ← hexp, List.append_assoc, ← hfrac, List.append_assoc, ← hu, ← hsign]

theorem read?_of {w r : Text} {m : Numeral} (h : Number w m) (hr : Ends r) :
    read? (w ++ r) = some (m, r) := by
  cases h with
  | @mk s w f x ds negative e hs hw hf hx =>
    have hxr := hx.noDigit hr.1
    have h1 := sign_of hs (hw.head_ne (r := f ++ (x ++ r)) (by decide))
    have h2 := whole?_of hw (hf.noDigit hxr)
    have h3 := fractionOf_of hf hxr (hx.head_ne_point hr)
    have h4 := exponentOf_of hx hr.1 fun c hc => (hr.2 c hc).2
    simp only [List.append_assoc]
    simp only [read?, h1, h2, h3, h4]

end Numeral

end JsonDesk
