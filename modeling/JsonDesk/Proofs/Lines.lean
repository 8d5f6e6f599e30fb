import JsonDesk.Text.Lines

set_option autoImplicit false

namespace JsonDesk

namespace Text

variable {sep : CodePoint} {t u l : Text} {ls rest : List Text}

theorem splitOn_go_eq (t piece : Text) (done : List Text) :
    splitOn.go sep t piece done =
      done.reverse ++ (t.splitOnP (· == sep)).modifyHead (piece.reverse ++ ·) := by
  induction t generalizing piece done with
  | nil => simp [splitOn.go]
  | cons c t ih =>
    rw [splitOn.go, List.splitOnP_cons_eq_if_modifyHead]
    by_cases hc : c = sep
    · rw [if_pos hc, if_pos (beq_iff_eq.mpr hc), ih]
      cases t.splitOnP (· == sep) <;> simp
    · rw [if_neg hc, if_neg (by simpa using hc), ih, List.modifyHead_modifyHead]
      simp [Function.comp_def]

theorem splitOn_eq (sep : CodePoint) (t : Text) : splitOn sep t = List.splitOn sep t := by
  rw [splitOn, splitOn_go_eq, List.splitOn]
  cases t.splitOnP (· == sep) <;> rfl

theorem join_eq (sep : Text) (ts : List Text) : join sep ts = List.intercalate sep ts := by
  cases ts with
  | nil => rfl
  | cons t ts =>
    induction ts generalizing t with
    | nil => simp [join]
    | cons u ts ih =>
      rw [List.intercalate_cons_cons, ← ih]
      simp [join]

theorem splitOn_append (a b : Text) :
    splitOn sep (a ++ sep :: b) = splitOn sep a ++ splitOn sep b := by
  rw [splitOn_eq, splitOn_eq, splitOn_eq]
  exact List.splitOnP_append_cons a b (beq_self_eq_true sep)

theorem splitOn_of_not_mem (h : sep ∉ t) : splitOn sep t = [t] := by
  rw [splitOn_eq]
  refine List.splitOnP_eq_singleton fun c hc => beq_eq_false_iff_ne.mpr ?_
  rintro rfl
  exact h hc

theorem not_mem_of_mem_splitOn (h : u ∈ splitOn sep t) : sep ∉ u := by
  induction hn : t.length using Nat.strongRecOn generalizing t with
  | ind n ih =>
    by_cases ht : sep ∈ t
    · obtain ⟨a, b, rfl, ha⟩ := List.eq_append_cons_of_mem ht
      rw [splitOn_append, splitOn_of_not_mem ha, List.singleton_append, List.mem_cons] at h
      rcases h with rfl | h
      · exact ha
      · exact ih b.length (by simp at hn; omega) h rfl
    · rw [splitOn_of_not_mem ht, List.mem_singleton] at h
      rwa [h]

/-- Texts, each with a code point behind it. -/
def led (sep : CodePoint) (ts : List Text) : Text := (ts.map (· ++ [sep])).flatten

@[simp] theorem led_nil (sep : CodePoint) : led sep [] = [] := rfl

@[simp] theorem led_cons (sep : CodePoint) (t : Text) (ts : List Text) :
    led sep (t :: ts) = t ++ sep :: led sep ts := by
  simp [led]

theorem getLast_led {c : CodePoint} {ts : List Text} (h : (led sep ts).getLast? = some c) :
    c = sep := by
  induction ts with
  | nil => cases h
  | cons t ts ih =>
    rw [led_cons, List.getLast?_append, List.getLast?_cons] at h
    cases hlast : (led sep ts).getLast? with
    | none =>
      rw [hlast] at h
      simpa using h.symm
    | some d =>
      rw [hlast] at h
      exact ih (hlast.trans (by simpa using h))

theorem join_append (ts : List Text) (t : Text) (rest : List Text) :
    join [sep] (ts ++ t :: rest) = led sep ts ++ join [sep] (t :: rest) := by
  induction ts with
  | nil => rfl
  | cons u ts ih =>
    rw [join_eq] at ih ⊢
    rw [List.cons_append, List.intercalate_cons_of_ne_nil (by simp), ih]
    simp

theorem join_singleton (sep t : Text) : join sep [t] = t := by
  simp [join]

/-! ### Lines -/

/-- No line of these has a line feed. -/
def Unbroken (ls : List Text) : Prop := ∀ l ∈ ls, CodePoint.ofChar '\n' ∉ l

theorem unbroken_lines (t : Text) : Unbroken t.lines := fun _ hl => not_mem_of_mem_splitOn hl

theorem join_lines (t : Text) : join "\n" t.lines = t := by
  rw [join_eq, lines, splitOn_eq]
  exact List.intercalate_splitOn _

theorem eq_led_append (h : t.lines = ls ++ l :: rest) :
    t = led '\n' ls ++ join "\n" (l :: rest) := by
  rw [← join_lines t, h]
  exact join_append ls l rest

theorem infix_of_mem_lines (h : l ∈ t.lines) : l <:+: t := by
  obtain ⟨before, after, hlines⟩ := List.append_of_mem h
  refine ⟨led '\n' before, (after.map (ofString "\n" ++ ·)).flatten, ?_⟩
  rw [List.append_assoc]
  exact (eq_led_append hlines).symm

theorem exists_lines_eq {i : Nat} (h : t.lines[i]? = some l) :
    ∃ before after, t.lines = before ++ l :: after ∧ before.length = i := by
  obtain ⟨hi, rfl⟩ := List.getElem?_eq_some_iff.mp h
  refine ⟨t.lines.take i, t.lines.drop (i + 1), ?_, ?_⟩
  · rw [List.getElem_cons_drop, List.take_append_drop]
  · rw [List.length_take]
    omega

theorem lines_join (hne : ls ≠ []) (h : Unbroken ls) : lines (join "\n" ls) = ls := by
  rw [join_eq, lines, splitOn_eq]
  exact List.splitOn_intercalate _ h hne

theorem lines_newline (t : Text) : lines (CodePoint.ofChar '\n' :: t) = [] :: lines t :=
  splitOn_append [] t

theorem lines_append (hu : CodePoint.ofChar '\n' ∉ u) (h : t.lines = l :: ls) :
    lines (u ++ t) = (u ++ l) :: ls := by
  have hunbroken := unbroken_lines t
  rw [h] at hunbroken
  have hjoin : u ++ t = join "\n" ((u ++ l) :: ls) := by
    rw [← join_lines t, h]
    simp [join]
  rw [hjoin]
  refine lines_join (by simp) fun k hk => ?_
  rcases List.mem_cons.mp hk with rfl | hk
  · simpa [hu] using hunbroken l (by simp)
  · exact hunbroken k (by simp [hk])

theorem lines_cons {c : CodePoint} (hc : c ≠ CodePoint.ofChar '\n') (h : t.lines = l :: ls) :
    lines (c :: t) = (c :: l) :: ls :=
  lines_append (u := [c]) (by simpa using Ne.symm hc) h

end Text

end JsonDesk
