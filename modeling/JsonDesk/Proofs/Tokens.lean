import JsonDesk.Proofs.Grammar

set_option autoImplicit false

namespace JsonDesk.Grammar

def Atomic (c : CodePoint) : Prop := c.isDigit ∨ c ∈ Text.ofString "+-.EINaefilnrstuy"

instance (c : CodePoint) : Decidable (Atomic c) := inferInstanceAs (Decidable (_ ∨ _))

theorem Atomic.ne {c : CodePoint} {a : Char} (h : Atomic c) (ha : ¬ Atomic (CodePoint.ofChar a)) :
    c ≠ CodePoint.ofChar a := by
  rintro rfl
  exact ha h

theorem Digits.atomic {t : Text} (h : Digits t) : ∀ c ∈ t, Atomic c :=
  fun c hc => .inl (h.2 c hc)

theorem Whole.atomic {t : Text} (h : Whole t) : ∀ c ∈ t, Atomic c := by
  cases h with
  | zero => decide
  | digits _ hd => exact hd.atomic

theorem Fraction.atomic {t ds : Text} (h : Fraction t ds) : ∀ c ∈ t, Atomic c := by
  cases h with
  | none => simp
  | some hd =>
    have hp : Atomic (CodePoint.ofChar '.') := by decide
    simpa [Text.ofString, hp] using hd.atomic

theorem Exponent.atomic {t : Text} {x : Option (Bool × Text)} (h : Exponent t x) :
    ∀ c ∈ t, Atomic c := by
  have letter {e : CodePoint} (he : e = CodePoint.ofChar 'e' ∨ e = CodePoint.ofChar 'E') :
      Atomic e := by
    rcases he with rfl | rfl <;> decide
  cases h with
  | none => simp
  | unsigned he hd => simpa [letter he] using hd.atomic
  | plus he hd =>
    have hp : Atomic (CodePoint.ofChar '+') := by decide
    simpa [letter he, Text.ofString, hp] using hd.atomic
  | minus he hd =>
    have hm : Atomic (CodePoint.ofChar '-') := by decide
    simpa [letter he, Text.ofString, hm] using hd.atomic

theorem Number.atomic {t : Text} {m : Numeral} (h : Number t m) : ∀ c ∈ t, Atomic c := by
  cases h with
  | mk hs hw hf hx =>
    intro c hc
    simp only [List.mem_append] at hc
    rcases hc with ((hc | hc) | hc) | hc
    · cases hs with
      | plus => simp at hc
      | minus =>
        have hm : ∀ d ∈ Text.ofString "-", Atomic d := by decide
        exact hm c hc
    · exact hw.atomic c hc
    · exact hf.atomic c hc
    · exact hx.atomic c hc

theorem atomic_word (c : Constant) : ∀ d ∈ c.word, Atomic d := by
  cases c <;> decide

/-- What stands between quotes, as far as quotes, backslashes and line feeds go. -/
inductive Quoted : Text → Prop
  | nil : Quoted []
  | plain {c : CodePoint} {w : Text} :
    c ≠ CodePoint.ofChar '"' → c ≠ CodePoint.ofChar '\\' → c ≠ CodePoint.ofChar '\n' → Quoted w →
      Quoted (c :: w)
  | escaped {c : CodePoint} {w : Text} :
    c ≠ CodePoint.ofChar '\n' → Quoted w → Quoted (CodePoint.ofChar '\\' :: c :: w)

theorem ne_of_hexDigit? {c : CodePoint} {n : Nat} (h : c.hexDigit? = some n) :
    c ≠ CodePoint.ofChar '"' ∧ c ≠ CodePoint.ofChar '\\' ∧ c ≠ CodePoint.ofChar '\n' := by
  refine ⟨?_, ?_, ?_⟩ <;> rintro rfl <;> cases h

theorem Quoted.hex {x w : Text} {n : Nat} (hx : Hex4 x n) (hw : Quoted w) : Quoted (x ++ w) := by
  obtain ⟨ha, hb, hc, hd⟩ := hx
  obtain ⟨a₁, a₂, a₃⟩ := ne_of_hexDigit? ha
  obtain ⟨b₁, b₂, b₃⟩ := ne_of_hexDigit? hb
  obtain ⟨c₁, c₂, c₃⟩ := ne_of_hexDigit? hc
  obtain ⟨d₁, d₂, d₃⟩ := ne_of_hexDigit? hd
  exact .plain a₁ a₂ a₃ (.plain b₁ b₂ b₃ (.plain c₁ c₂ c₃ (.plain d₁ d₂ d₃ hw)))

theorem Body.quoted {w t : Text} (h : Body w t) : Quoted w := by
  have hu : CodePoint.ofChar 'u' ≠ CodePoint.ofChar '\n' := by decide
  induction h with
  | nil => exact .nil
  | @plain c w t hlow hq hb _ ih =>
    refine .plain hq hb ?_ ih
    rintro rfl
    exact absurd hlow (by decide)
  | short hs _ ih => exact .escaped (by cases hs <;> decide) ih
  | unit hx _ _ ih => exact .escaped hu (ih.hex hx)
  | pair hx _ hy _ _ ih =>
    have h := (Quoted.escaped hu (ih.hex hy)).hex hx
    simpa [Text.ofString] using Quoted.escaped hu h

end JsonDesk.Grammar
