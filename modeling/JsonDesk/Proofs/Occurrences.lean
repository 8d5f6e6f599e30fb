import JsonDesk.Proofs.Lines
import Mathlib.Data.List.Infix

set_option autoImplicit false

namespace JsonDesk

namespace Text

variable {p s t u : Text} {c e : CodePoint}

/-! ### Stretches of a text -/

theorem infix_of_append_cons (hc : c ∉ p) (h : p <:+: s ++ c :: t) : p <:+: s ∨ p <:+: t := by
  obtain ⟨front, back, h⟩ := h
  rw [List.append_assoc] at h
  rcases List.append_eq_append_iff.mp h with ⟨a, rfl, ha⟩ | ⟨a, rfl, ha⟩
  · rcases List.append_eq_append_iff.mp ha with ⟨b, rfl, -⟩ | ⟨b, rfl, hb⟩
    · exact .inl ⟨front, b, by simp⟩
    · cases b with
      | nil => exact .inl ⟨front, [], by simp⟩
      | cons d b =>
        cases hb
        simp at hc
  · cases a with
    | nil =>
      cases p with
      | nil => exact .inr List.nil_infix
      | cons d p =>
        cases ha
        simp at hc
    | cons d a =>
      cases ha
      exact .inr ⟨a, back, by simp⟩

theorem infix_of_append_singleton (hp : ∃ d, p.getLast? = some d ∧ d ≠ c) (h : p <:+: s ++ [c]) :
    p <:+: s := by
  obtain ⟨front, back, h⟩ := h
  obtain rfl | ⟨back, b, rfl⟩ := List.eq_nil_or_concat' back
  · obtain ⟨d, hd, hne⟩ := hp
    have hlast := congrArg List.getLast? h
    simp [hd] at hlast
    exact absurd hlast hne
  · rw [← List.append_assoc] at h
    exact ⟨front, back, (List.append_inj' h rfl).1⟩

theorem infix_of_append (he : e ∉ s) (h : e :: p <:+: s ++ t) : e :: p <:+: t := by
  induction s with
  | nil => exact h
  | cons d s ih =>
    rw [List.mem_cons, not_or] at he
    rcases List.infix_cons_iff.mp h with h | h
    · exact absurd (List.cons_prefix_cons.mp h).1 he.1
    · exact ih he.2 h

theorem infix_of_join {ls : List Text} (hp : ∃ d, p.getLast? = some d ∧ d ≠ CodePoint.ofChar '\n')
    (hls : ∀ l ∈ ls, ∃ d r, l = d :: r ∧ d ∉ p) (h : p <:+: join "\n" ls) :
    ∃ l ∈ ls, p <:+: l := by
  induction ls with
  | nil =>
    obtain ⟨d, hd, -⟩ := hp
    rw [List.eq_nil_of_infix_nil h] at hd
    cases hd
  | cons l ls ih =>
    obtain ⟨-, hrest⟩ := List.forall_mem_cons.mp hls
    cases ls with
    | nil => exact ⟨l, .head _, by rwa [join_singleton] at h⟩
    | cons l' ls =>
      obtain ⟨d, r, rfl, hd⟩ := hrest _ (.head _)
      have hjoin : join "\n" (l :: (d :: r) :: ls) =
          (l ++ [CodePoint.ofChar '\n']) ++ join "\n" ((d :: r) :: ls) := by
        simpa [ofString] using @join_append (CodePoint.ofChar '\n') [l] (d :: r) ls
      have hhead : join "\n" ((d :: r) :: ls) = d :: (r ++ (ls.map (ofString "\n" ++ ·)).flatten) :=
        rfl
      rw [hjoin, hhead] at h
      rcases infix_of_append_cons hd h with h | h
      · exact ⟨l, .head _, infix_of_append_singleton hp h⟩
      · obtain ⟨k, hk, hinside⟩ := ih hrest (hhead ▸ h.trans (List.suffix_cons d _).isInfix)
        exact ⟨k, .tail _ hk, hinside⟩

/-! ### The last occurrence -/

theorem afterLast?_go (p t : Text) (found : Option Text) :
    afterLast?.go p t found = (t.afterLast? p).or found := by
  induction t generalizing found with
  | nil => simp [afterLast?, afterLast?.go]
  | cons c t ih =>
    rw [afterLast?, afterLast?.go, afterLast?.go, ih, ih, Option.or_none, Option.or_assoc]

theorem afterLast?_cons (p : Text) (c : CodePoint) (t : Text) :
    afterLast? (c :: t) p = (t.afterLast? p).or (after? p (c :: t)) := by
  rw [afterLast?, afterLast?.go, afterLast?_go, Option.or_none]

theorem afterLast?_append (s : Text) (h : t.afterLast? p = some u) :
    afterLast? (s ++ t) p = some u := by
  induction s with
  | nil => exact h
  | cons c s ih => rw [List.cons_append, afterLast?_cons, ih, Option.some_or]

theorem after?_eq_none_iff : after? p t = none ↔ ¬ p <+: t := by
  rw [Option.eq_none_iff_forall_ne_some]
  constructor
  · rintro h ⟨r, rfl⟩
    exact h r (after?_eq_some_iff.mpr rfl)
  · intro h r hr
    exact h ⟨r, (after?_eq_some_iff.mp hr).symm⟩

theorem afterLast?_eq_none_iff : t.afterLast? p = none ↔ ¬ p <:+: t := by
  induction t with
  | nil =>
    rw [afterLast?, afterLast?.go, Option.or_none, after?_eq_none_iff, List.infix_nil,
      List.prefix_nil]
  | cons c t ih =>
    rw [afterLast?_cons, Option.or_eq_none_iff, ih, after?_eq_none_iff, List.infix_cons_iff]
    tauto

theorem exists_of_afterLast? (h : t.afterLast? p = some u) : ∃ s, t = s ++ p ++ u := by
  induction t with
  | nil =>
    rw [afterLast?, afterLast?.go, Option.or_none, after?_eq_some_iff] at h
    exact ⟨[], h⟩
  | cons c t ih =>
    rw [afterLast?_cons] at h
    cases ht : afterLast? t p with
    | none =>
      rw [ht, Option.none_or, after?_eq_some_iff] at h
      exact ⟨[], h⟩
    | some v =>
      rw [ht, Option.some_or] at h
      cases h
      obtain ⟨s, rfl⟩ := ih ht
      exact ⟨c :: s, rfl⟩

end Text

end JsonDesk
