import JsonDesk.Text.Lines
import Mathlib.Data.List.Infix

set_option autoImplicit false

namespace JsonDesk

namespace Text

variable {t u p back : Text} {behind : Bool}

/-- The text with its line ends unified, behind a carriage return or not. -/
def unified : (behind : Bool) → Text → Text
  | _, [] => []
  | behind, c :: t =>
    if c = CodePoint.ofChar '\r' then CodePoint.ofChar '\n' :: unified true t
    else if behind ∧ c = CodePoint.ofChar '\n' then unified false t
    else c :: unified false t

theorem unified_return (behind : Bool) (t : Text) :
    unified behind (CodePoint.ofChar '\r' :: t) = CodePoint.ofChar '\n' :: unified true t := by
  rw [unified, if_pos rfl]

theorem unified_cons {c : CodePoint} (hreturn : c ≠ CodePoint.ofChar '\r')
    (hfeed : ¬(behind ∧ c = CodePoint.ofChar '\n')) (t : Text) :
    unified behind (c :: t) = c :: unified false t := by
  rw [unified, if_neg hreturn, if_neg hfeed]

theorem unified_feed (t : Text) :
    unified true (CodePoint.ofChar '\n' :: t) = unified false t := by
  rw [unified, if_neg (by decide), if_pos ⟨rfl, rfl⟩]

/-- Only a line feed may belong to the carriage return before it. -/
theorem unified_behind (behind : Bool) (h : ∀ c ∈ t.head?, c ≠ CodePoint.ofChar '\n') :
    unified behind t = unified false t := by
  cases t with
  | nil => rfl
  | cons c t => simp [unified, h c rfl]

theorem unifyLineEnds_go : ∀ t done : Text,
    unifyLineEnds.go t done = done.reverse ++ unified false t
  | [], done => by simp [unifyLineEnds.go, unified]
  | [c], done => by
    by_cases hc : c = CodePoint.ofChar '\r'
    · simp [unifyLineEnds.go, unified, hc]
    · simp [unifyLineEnds.go, unified, hc]
  | c :: d :: t, done => by
    by_cases hc : c = CodePoint.ofChar '\r'
    · subst hc
      by_cases hd : d = CodePoint.ofChar '\n'
      · subst hd
        rw [unifyLineEnds.go, if_pos rfl, if_pos rfl, unifyLineEnds_go t, unified_return,
          unified_feed]
        simp
      · rw [unifyLineEnds.go, if_pos rfl, if_neg hd, unifyLineEnds_go (d :: t), unified_return,
          unified_behind true (by simpa using hd)]
        simp
    · rw [unifyLineEnds.go, if_neg hc, unifyLineEnds_go (d :: t), unified_cons hc (by simp)]
      simp

theorem unifyLineEnds_eq (t : Text) : t.unifyLineEnds = unified false t := unifyLineEnds_go t []

/-! ### Pieces -/

/-- Whether the next code point comes behind a carriage return. -/
def returned : (behind : Bool) → Text → Bool
  | behind, [] => behind
  | _, c :: t => returned (c = CodePoint.ofChar '\r') t

theorem unified_append (t u : Text) :
    unified behind (t ++ u) = unified behind t ++ unified (returned behind t) u := by
  induction t generalizing behind with
  | nil => rfl
  | cons c t ih =>
    rw [List.cons_append, unified, unified, returned]
    split
    · next hc => simp [ih, hc]
    · next hc =>
      split
      · simp [ih, hc]
      · simp [ih, hc]

theorem returned_append_singleton (behind : Bool) (t : Text) (c : CodePoint) :
    returned behind (t ++ [c]) = (c = CodePoint.ofChar '\r' : Bool) := by
  induction t generalizing behind with
  | nil => rfl
  | cons d t ih => exact ih _

/-- Behind a line feed a text is unified by itself.  The line feed is left even if it belongs to a
carriage return, whose line feed it then is. -/
theorem unified_append_feed (t u : Text) :
    ∃ front, unified false (t ++ CodePoint.ofChar '\n' :: u) =
      front ++ CodePoint.ofChar '\n' :: unified false u := by
  rw [unified_append]
  cases hbehind : returned false t with
  | false => exact ⟨_, by rw [unified_cons (by decide) (by simp)]⟩
  | true =>
    obtain rfl | ⟨t, c, rfl⟩ := List.eq_nil_or_concat' t
    · cases hbehind
    · have hc : c = CodePoint.ofChar '\r' := by simpa [returned_append_singleton] using hbehind
      subst hc
      refine ⟨unified false t, ?_⟩
      rw [unified_feed, unified_append, unified_return, unified, List.append_assoc]
      rfl

/-- A line end, or the last code point of one. -/
def IsEnd (c : CodePoint) : Prop := c = CodePoint.ofChar '\n' ∨ c = CodePoint.ofChar '\r'

theorem exists_end_of_unified {front : Text}
    (h : unified behind t = front ++ CodePoint.ofChar '\n' :: back) :
    ∃ s e u, t = s ++ e :: u ∧ IsEnd e ∧ unified false u = back := by
  induction t generalizing behind front with
  | nil => simp [unified] at h
  | cons c t ih =>
    have later {behind : Bool} {front : Text}
        (h : unified behind t = front ++ CodePoint.ofChar '\n' :: back) :
        ∃ s e u, c :: t = s ++ e :: u ∧ IsEnd e ∧ unified false u = back := by
      obtain ⟨s, e, u, rfl, he, hu⟩ := ih h
      exact ⟨c :: s, e, u, rfl, he, hu⟩
    by_cases hreturn : c = CodePoint.ofChar '\r'
    · rw [hreturn, unified_return] at h
      cases front with
      | cons d front => exact later (List.cons.inj h).2
      | nil =>
        obtain ⟨-, h⟩ := List.cons.inj h
        -- a line feed behind the carriage return belongs to the same line end
        cases t with
        | nil => exact ⟨[], c, [], rfl, .inr hreturn, h⟩
        | cons d t =>
          by_cases hd : d = CodePoint.ofChar '\n'
          · rw [hd, unified_feed] at h
            exact ⟨[c], d, t, rfl, .inl hd, h⟩
          · rw [unified_behind true (by simpa using hd)] at h
            exact ⟨[], c, d :: t, rfl, .inr hreturn, h⟩
    · by_cases hfeed : behind ∧ c = CodePoint.ofChar '\n'
      · rw [unified, if_neg hreturn, if_pos hfeed] at h
        exact later h
      · rw [unified_cons hreturn hfeed] at h
        cases front with
        | cons d front => exact later (List.cons.inj h).2
        | nil =>
          obtain ⟨hc, h⟩ := List.cons.inj h
          exact ⟨[], c, t, rfl, .inl hc, h⟩

/-! ### Whole lines -/

/-- Nothing of a line end is in it. -/
def Level (t : Text) : Prop := ∀ c ∈ t, ¬ IsEnd c

theorem unified_append_of_not_mem (hp : CodePoint.ofChar '\r' ∉ p) (u : Text) :
    unified false (p ++ u) = p ++ unified false u := by
  induction p with
  | nil => rfl
  | cons c p ih =>
    rw [List.mem_cons, not_or] at hp
    rw [List.cons_append, unified_cons (Ne.symm hp.1) (by simp), ih hp.2, List.cons_append]

theorem exists_append_of_unified (hp : Level p) (h : unified false t = p ++ back) :
    ∃ u, t = p ++ u ∧ unified false u = back := by
  induction p generalizing t with
  | nil => exact ⟨t, rfl, h⟩
  | cons c p ih =>
    obtain ⟨hc, hlevel⟩ := List.forall_mem_cons.mp hp
    cases t with
    | nil => simp [unified] at h
    | cons d t =>
      by_cases hreturn : d = CodePoint.ofChar '\r'
      · rw [hreturn, unified_return] at h
        exact absurd (List.cons.inj h).1.symm fun h => hc (.inl h)
      · rw [unified_cons hreturn (by simp)] at h
        obtain ⟨rfl, htail⟩ := List.cons.inj h
        obtain ⟨u, rfl, hu⟩ := ih hlevel htail
        exact ⟨u, rfl, hu⟩

theorem exists_unified_eq_cons_iff :
    (∃ back, unified false t = CodePoint.ofChar '\n' :: back) ↔ ∃ e u, t = e :: u ∧ IsEnd e := by
  constructor
  · rintro ⟨back, h⟩
    cases t with
    | nil => cases h
    | cons c t =>
      by_cases hreturn : c = CodePoint.ofChar '\r'
      · exact ⟨c, t, rfl, .inr hreturn⟩
      · rw [unified_cons hreturn (by simp)] at h
        exact ⟨c, t, rfl, .inl (List.cons.inj h).1⟩
  · rintro ⟨e, u, rfl, rfl | rfl⟩
    · exact ⟨_, unified_cons (by decide) (by simp) u⟩
    · exact ⟨_, unified_return false u⟩

theorem line_infix_unified_iff (hp : Level p) (hne : p ≠ []) :
    CodePoint.ofChar '\n' :: p ++ [CodePoint.ofChar '\n'] <:+: unified false t ↔
      ∃ e e', IsEnd e ∧ IsEnd e' ∧ e :: p ++ [e'] <:+: t := by
  constructor
  · rintro ⟨front, back, h⟩
    have hline : unified false t =
        front ++ CodePoint.ofChar '\n' :: (p ++ CodePoint.ofChar '\n' :: back) := by simp [← h]
    obtain ⟨s, e, u, rfl, he, hu⟩ := exists_end_of_unified hline
    obtain ⟨r, rfl, hr⟩ := exists_append_of_unified hp hu
    obtain ⟨e', r, rfl, he'⟩ := exists_unified_eq_cons_iff.mp ⟨back, hr⟩
    exact ⟨e, e', he, he', s, r, by simp⟩
  · rintro ⟨e, e', he, he', s, r, rfl⟩
    obtain ⟨back, hback⟩ := exists_unified_eq_cons_iff.mpr ⟨e', r, rfl, he'⟩
    have hline : unified false (p ++ e' :: r) = p ++ CodePoint.ofChar '\n' :: back := by
      rw [unified_append_of_not_mem (fun h => hp _ h (.inr rfl)), hback]
    have hfront : ∃ front, unified false (s ++ e :: (p ++ e' :: r)) =
        front ++ CodePoint.ofChar '\n' :: unified false (p ++ e' :: r) := by
      rcases he with rfl | rfl
      · exact unified_append_feed s _
      · refine ⟨unified false s, ?_⟩
        rw [unified_append, unified_return, unified_behind true]
        intro c hc
        obtain ⟨d, q, rfl⟩ := List.exists_cons_of_ne_nil hne
        cases hc
        exact fun h => hp _ (.head _) (.inl h)
    obtain ⟨front, hfront⟩ := hfront
    refine ⟨front, back, ?_⟩
    rw [show s ++ (e :: p ++ [e']) ++ r = s ++ e :: (p ++ e' :: r) by simp, hfront, hline]
    simp

end Text

end JsonDesk
