import JsonDesk.Proofs.Flow
import JsonDesk.Proofs.Lines

/-!
Stretches of text that start and end outside strings.  A stretch can be taken off the front of
another one, because it can only be read in one way, and so a quote outside strings is always an
opening one.
-/

set_option autoImplicit false

namespace JsonDesk.Grammar

theorem Quoted.no_newline {w : Text} (h : Quoted w) : CodePoint.ofChar '\n' ∉ w := by
  induction h with
  | nil => simp
  | plain _ _ hc _ ih => simp [Ne.symm hc, ih]
  | escaped hc _ ih => simp [Ne.symm hc, ih]

theorem Quoted.unique {w w' r r' : Text} (h : Quoted w) (h' : Quoted w')
    (heq : w ++ CodePoint.ofChar '"' :: r = w' ++ CodePoint.ofChar '"' :: r') :
    w = w' ∧ r = r' := by
  induction h generalizing w' with
  | nil =>
    cases h' with
    | nil => simpa using heq
    | plain hq => exact absurd (List.cons.inj heq).1.symm hq
    | escaped => simp at heq
  | plain hq hb _ _ ih =>
    cases h' with
    | nil => exact absurd (List.cons.inj heq).1 hq
    | plain _ _ _ h' =>
      obtain ⟨rfl, htail⟩ := List.cons.inj heq
      obtain ⟨rfl, rfl⟩ := ih h' htail
      exact ⟨rfl, rfl⟩
    | escaped => exact absurd (List.cons.inj heq).1 hb
  | escaped _ _ ih =>
    cases h' with
    | nil => simp at heq
    | plain _ hb => exact absurd (List.cons.inj heq).1.symm hb
    | escaped _ h' =>
      obtain ⟨rfl, htail⟩ := List.cons.inj (List.cons.inj heq).2
      obtain ⟨rfl, rfl⟩ := ih h' htail
      exact ⟨rfl, rfl⟩

/-- From outside strings to outside strings, with no backslash on the way but in strings. -/
inductive Outside : Text → Prop
  | nil : Outside []
  | plain {c : CodePoint} {t : Text} :
    c ≠ CodePoint.ofChar '"' → c ≠ CodePoint.ofChar '\\' → Outside t → Outside (c :: t)
  | string {w t : Text} :
    Quoted w → Outside t → Outside (CodePoint.ofChar '"' :: (w ++ CodePoint.ofChar '"' :: t))

variable {t u : Text} {ls : List Text}

theorem outside_cons_iff {c : CodePoint} : Outside (c :: t) ↔
    (c ≠ CodePoint.ofChar '"' ∧ c ≠ CodePoint.ofChar '\\' ∧ Outside t) ∨
      c = CodePoint.ofChar '"' ∧
        ∃ w r, Quoted w ∧ Outside r ∧ t = w ++ CodePoint.ofChar '"' :: r := by
  constructor
  · rintro (_ | ⟨hq, hb, ht⟩ | ⟨hw, ht⟩)
    · exact .inl ⟨hq, hb, ht⟩
    · exact .inr ⟨rfl, _, _, hw, ht, rfl⟩
  · rintro (⟨hq, hb, ht⟩ | ⟨rfl, w, r, hw, hr, rfl⟩)
    · exact .plain hq hb ht
    · exact .string hw hr

theorem Outside.append (h : Outside t) (hu : Outside u) : Outside (t ++ u) := by
  induction h with
  | nil => exact hu
  | plain hq hb _ ih => exact .plain hq hb ih
  | string hw _ ih =>
    rw [List.cons_append, List.append_assoc]
    exact .string hw ih

theorem Outside.cancel (h : Outside t) (htu : Outside (t ++ u)) : Outside u := by
  induction h with
  | nil => exact htu
  | plain hq _ _ ih =>
    obtain ⟨-, -, htu⟩ | ⟨hc, -⟩ := outside_cons_iff.mp htu
    · exact ih htu
    · exact absurd hc hq
  | string hw _ ih =>
    rw [List.cons_append, List.append_assoc, List.cons_append] at htu
    obtain ⟨hq, -⟩ | ⟨-, w', r, hw', hr, heq⟩ := outside_cons_iff.mp htu
    · exact absurd rfl hq
    · obtain ⟨-, rfl⟩ := hw.unique hw' heq
      exact ih hr

theorem ne_of_isBlank {c : CodePoint} (h : c.isBlank = true) :
    c ≠ CodePoint.ofChar '"' ∧ c ≠ CodePoint.ofChar '\\' := by
  constructor <;> rintro rfl <;> cases h

theorem outside_of_isBlank (h : ∀ c ∈ t, c.isBlank = true) : Outside t := by
  induction t with
  | nil => exact .nil
  | cons c t ih =>
    obtain ⟨hq, hb⟩ := ne_of_isBlank (h c (by simp))
    exact .plain hq hb (ih fun d hd => h d (by simp [hd]))

theorem Flow.outside {s s' : Spot} (h : Flow s t s') : Outside t := by
  induction h with
  | done => exact .nil
  | blank hc _ ih => exact .plain (ne_of_isBlank hc).1 (ne_of_isBlank hc).2 ih
  | plain hc _ ih => exact .plain (hc.ne (by decide)) (hc.ne (by decide)) ih
  | @string s s' w t _ hw _ ih =>
    rw [string_append_eq]
    exact .string hw ih
  | opener b _ ih => cases b <;> exact .plain (by decide) (by decide) ih
  | closer b _ _ ih => cases b <;> exact .plain (by decide) (by decide) ih

/-- Without a quote behind it a place is outside strings where the end is. -/
theorem Outside.of_append (h : Outside (t ++ u)) (hu : CodePoint.ofChar '"' ∉ u) : Outside t := by
  generalize htu : t ++ u = v at h
  induction h generalizing t with
  | nil =>
    rw [(List.append_eq_nil_iff.mp htu).1]
    exact .nil
  | plain hq hb _ ih =>
    cases t with
    | nil => exact .nil
    | cons d t =>
      obtain ⟨rfl, htail⟩ := List.cons.inj htu
      exact .plain hq hb (ih htail)
  | string hw _ ih =>
    cases t with
    | nil =>
      rw [List.nil_append] at htu
      simp [htu] at hu
    | cons d t =>
      obtain ⟨rfl, htail⟩ := List.cons.inj htu
      obtain ⟨x, -, hx⟩ | ⟨x, rfl, hx⟩ := List.append_eq_append_iff.mp htail
      · simp [hx] at hu
      · cases x with
        | nil =>
          rw [List.nil_append] at hx
          simp [← hx] at hu
        | cons c x =>
          obtain ⟨rfl, hrest⟩ := List.cons.inj hx
          exact .string hw (ih hrest.symm)

theorem outside_led (h : ∀ l ∈ ls, Outside l) : Outside (Text.led '\n' ls) := by
  induction ls with
  | nil => exact .nil
  | cons l ls ih =>
    rw [Text.led_cons]
    have hls := ih fun k hk => h k (by simp [hk])
    exact (h l (by simp)).append (.plain (by decide) (by decide) hls)

theorem Outside.no_backslash (h : Outside t) (hq : CodePoint.ofChar '"' ∉ t) :
    CodePoint.ofChar '\\' ∉ t := by
  induction h with
  | nil => simp
  | plain _ hb _ ih => simp_all [Ne.symm hb]
  | string => simp at hq

theorem Outside.exists_last (h : Outside t) (hq : CodePoint.ofChar '"' ∈ t) :
    ∃ y w b, t = y ++ CodePoint.ofChar '"' :: (w ++ CodePoint.ofChar '"' :: b) ∧ Outside y ∧
      Quoted w ∧ CodePoint.ofChar '"' ∉ b ∧ CodePoint.ofChar '\\' ∉ b := by
  induction h with
  | nil => simp at hq
  | @plain c t hc hb _ ih =>
    obtain ⟨y, w, b, rfl, hy, hrest⟩ := ih (by simpa [Ne.symm hc] using hq)
    exact ⟨c :: y, w, b, rfl, .plain hc hb hy, hrest⟩
  | @string w t hw ht ih =>
    by_cases hlater : CodePoint.ofChar '"' ∈ t
    · obtain ⟨y, w', b, rfl, hy, hrest⟩ := ih hlater
      exact ⟨CodePoint.ofChar '"' :: (w ++ CodePoint.ofChar '"' :: y), w', b, by simp,
        .string hw hy, hrest⟩
    · exact ⟨[], w, t, rfl, .nil, hw, hlater, ht.no_backslash hlater⟩

end JsonDesk.Grammar
