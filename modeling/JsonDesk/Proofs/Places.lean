import JsonDesk.Proofs.Alarms

/-!
Where a diagnosis points.  Each check goes along the lines of a text and reports a line that it has
seen, and a column of it at most one behind its end; an offset counts as the position of the text
before it, which is in the text as well.
-/

set_option autoImplicit false

namespace JsonDesk

/-- The place is on one of these lines, which are numbered from `n` on.  A column may be the one
behind the end of its line. -/
def Place.On (n : Nat) (ls : List Text) : Place → Prop
  | unknown => True
  | line m => ∃ i l, m = n + i ∧ ls[i]? = some l
  | point p => ∃ i l, p.line = n + i ∧ ls[i]? = some l ∧ 1 ≤ p.column ∧ p.column ≤ l.length + 1

namespace Place

variable {n : Nat} {l : Text} {ls : List Text} {p : Place}

theorem on_line : (line n).On n (l :: ls) := ⟨0, l, rfl, rfl⟩

theorem on_point {c : Nat} (h : 1 ≤ c) (hc : c ≤ l.length + 1) :
    (point ⟨n, c⟩).On n (l :: ls) := ⟨0, l, rfl, rfl, h, hc⟩

theorem On.tail (h : p.On (n + 1) ls) : p.On n (l :: ls) := by
  cases p with
  | unknown => trivial
  | line m =>
    obtain ⟨i, k, hm, hk⟩ := h
    exact ⟨i + 1, k, by omega, hk⟩
  | point q =>
    obtain ⟨i, k, hq, hk, hc⟩ := h
    exact ⟨i + 1, k, by omega, hk, hc⟩

theorem On.line_bounds {m : Nat} (h : p.On 1 ls) (hm : p.line? = some m) :
    1 ≤ m ∧ m ≤ ls.length := by
  cases p with
  | unknown => cases hm
  | line k =>
    cases hm
    obtain ⟨i, l, rfl, hl⟩ := h
    have hi := (List.getElem?_eq_some_iff.mp hl).1
    omega
  | point q =>
    cases hm
    obtain ⟨i, l, hq, hl, -⟩ := h
    have hi := (List.getElem?_eq_some_iff.mp hl).1
    omega

theorem On.column_bounds {c : Nat} (h : p.On 1 ls) (hc : p.column? = some c) :
    ∃ m l, p.line? = some m ∧ ls[m - 1]? = some l ∧ 1 ≤ c ∧ c ≤ l.length + 1 := by
  cases p with
  | unknown => cases hc
  | line k => cases hc
  | point q =>
    cases hc
    obtain ⟨i, l, hq, hl, hc⟩ := h
    refine ⟨q.line, l, rfl, ?_, hc⟩
    rw [hq, Nat.add_sub_cancel_left]
    exact hl

end Place

/-! ### Offsets -/

namespace Text

def advance (p : Position) (c : CodePoint) : Position :=
  if c = '\n' then ⟨p.line + 1, 1⟩ else ⟨p.line, p.column + 1⟩

/-- Behind some text the position is on a line of that text and what follows it.  The first line
goes on from the column that was reached before. -/
theorem foldl_advance (u w : Text) {p q : Position} (hp : 1 ≤ p.column)
    (hq : u.foldl advance p = q) : ∃ i l, q.line = p.line + i ∧ (lines (u ++ w))[i]? = some l ∧
      1 ≤ q.column ∧ q.column ≤ (if i = 0 then p.column else 1) + l.length := by
  -- the column of the start only counts as long as the first line goes on
  induction u generalizing p with
  | nil =>
    subst hq
    cases hl : lines w with
    | nil => exact absurd hl (lines_ne_nil w)
    | cons l ls => exact ⟨0, l, rfl, by simp [hl], hp, by simp⟩
  | cons c u ih =>
    rw [List.foldl_cons] at hq
    rw [List.cons_append]
    by_cases hc : c = CodePoint.ofChar '\n'
    · subst hc
      rw [advance, if_pos rfl] at hq
      obtain ⟨i, l, hline, hl, hlow, hhigh⟩ := ih (Nat.le_refl 1) hq
      rw [lines_newline]
      refine ⟨i + 1, l, by simp only at hline; omega, hl, hlow, ?_⟩
      split at hhigh <;> simpa using hhigh
    · rw [advance, if_neg hc] at hq
      obtain ⟨i, l, hline, hl, hlow, hhigh⟩ := ih (Nat.le_add_left 1 _) hq
      cases hsplit : lines (u ++ w) with
      | nil => exact absurd hsplit (lines_ne_nil _)
      | cons k ks =>
        rw [hsplit] at hl
        rw [lines_cons hc hsplit]
        cases i with
        | zero =>
          obtain rfl : k = l := Option.some.inj hl
          refine ⟨0, c :: k, hline, rfl, hlow, ?_⟩
          simp only [if_true, List.length_cons] at hhigh ⊢
          omega
        | succ i => exact ⟨i + 1, l, hline, hl, hlow, by simpa using hhigh⟩

theorem on_positionAt (t : Text) (offset : Int) :
    (Place.point (t.positionAt offset)).On 1 t.lines := by
  obtain ⟨i, l, hline, hl, hlow, hhigh⟩ :=
    foldl_advance (t.take offset.toNat) (t.drop offset.toNat) (p := ⟨1, 1⟩) (Nat.le_refl 1) rfl
  rw [List.take_append_drop] at hl
  refine ⟨i, l, hline, hl, hlow, ?_⟩
  rw [ite_self, Nat.add_comm] at hhigh
  exact hhigh

end Text

namespace Diagnosis
open Place

/-! ### Checks of lines -/

theorem on_unterminatedString {n : Nat} {ls : List Text} {d : Diagnosis}
    (h : unterminatedString.go n ls = some d) : d.place.On n ls := by
  induction ls generalizing n with
  | nil => cases h
  | cons l ls ih =>
    rw [unterminatedString.go] at h
    split at h
    · next hodd =>
      have hne : l ≠ [] := by
        rintro rfl
        cases hodd
      cases h
      exact on_point (List.length_pos_iff.mpr hne) (Nat.le_succ _)
    · exact (ih h).tail

theorem on_duplicateKey {n : Nat} {ls : List Text} {seen : List (Text × Nat)} {d : Diagnosis}
    (h : duplicateKey.go n ls seen = some d) : d.place.On n ls := by
  induction ls generalizing n seen with
  | nil => cases h
  | cons l ls ih =>
    rw [duplicateKey.go] at h
    split at h
    · exact (ih h).tail
    · split at h
      · cases h
        exact on_line
      · exact (ih h).tail

theorem on_firstPair {judge : Nat → Text → Text → Option Diagnosis}
    (hj : ∀ n l next d, judge n l next = some d → ∀ ls, d.place.On n (l :: ls))
    {n : Nat} {ls : List Text} {d : Diagnosis} (h : firstPair judge n ls = some d) :
    d.place.On n ls := by
  induction ls generalizing n with
  | nil => cases h
  | cons l ls ih =>
    cases ls with
    | nil => cases h
    | cons next rest =>
      rw [firstPair] at h
      cases hjudge : judge n l next with
      | some e =>
        rw [hjudge] at h
        cases h
        exact hj n l next d hjudge _
      | none =>
        rw [hjudge] at h
        exact (ih h).tail

theorem on_missingComma {ls : List Text} {d : Diagnosis} (h : missingComma ls = some d) :
    d.place.On 1 ls := by
  refine on_firstPair (fun n l next d hd ls => ?_) h
  simp only [Option.ite_none_left_eq_some, Option.ite_none_right_eq_some] at hd
  obtain ⟨hstrip, -, hd⟩ := hd
  have hne : l ≠ [] := by
    rintro rfl
    exact hstrip (.inl rfl)
  cases hd
  exact on_point (List.length_pos_iff.mpr hne) (Nat.le_succ _)

theorem on_missingColon {ls : List Text} {d : Diagnosis} (h : missingColon ls = some d) :
    d.place.On 1 ls := by
  refine on_firstPair (fun n l next d hd ls => ?_) h
  simp only [Option.ite_none_right_eq_some] at hd
  obtain ⟨-, hd⟩ := hd
  cases hd
  exact on_line

theorem on_trailingComma {ls : List Text} {d : Diagnosis} (h : trailingComma ls = some d) :
    d.place.On 1 ls := by
  refine on_firstPair (fun n l next d hd ls => ?_) h
  simp only [Option.ite_none_right_eq_some] at hd
  obtain ⟨-, hd⟩ := hd
  split at hd
  · obtain ⟨b, -, rfl⟩ := Option.map_eq_some_iff.mp hd
    exact on_line
  · cases hd

/-! ### Brackets -/

/-- The scan knows good positions only: those of what is open, or the one at which it stops. -/
def Keeps (P : Position → Prop) : Except Diagnosis Balance → Prop
  | .error d => ∃ p, P p ∧ d.place = .point p
  | .ok s => ∀ o ∈ s.opened, P o.2

theorem keeps_step {P : Position → Prop} {s : Balance} {p : Position} (hs : ∀ o ∈ s.opened, P o.2)
    (hp : P p) (c : CodePoint) : Keeps P (s.step p c) := by
  rw [Balance.step]
  split
  · exact hs
  split
  · exact hs
  split
  · exact hs
  split
  · exact hs
  cases Bracket.ofOpener? c with
  | some b =>
    intro o ho
    rcases List.mem_cons.mp ho with rfl | ho
    · exact hp
    · exact hs o ho
  | none =>
    cases Bracket.ofCloser? c with
    | none => exact hs
    | some found =>
      cases hopened : s.opened with
      | nil => exact ⟨p, hp, rfl⟩
      | cons o rest =>
        simp only
        split
        · exact fun o ho => hs o (hopened ▸ List.mem_cons_of_mem _ ho)
        · exact ⟨p, hp, rfl⟩

theorem keeps_line {P : Position → Prop} {n column : Nat} {s : Balance} {l : Text}
    (hs : ∀ o ∈ s.opened, P o.2) (hl : ∀ k < l.length, P ⟨n, column + k⟩) :
    Keeps P (Balance.line n column s l) := by
  induction l generalizing column s with
  | nil => exact hs
  | cons c l ih =>
    have hstep : Keeps P (s.step ⟨n, column⟩ c) := keeps_step hs (hl 0 (Nat.zero_lt_succ _)) c
    rw [Balance.line]
    cases h : s.step ⟨n, column⟩ c with
    | error d =>
      rw [h] at hstep
      exact hstep
    | ok s' =>
      rw [h] at hstep
      refine ih hstep fun k hk => ?_
      rw [Nat.add_assoc, Nat.add_comm 1]
      exact hl (k + 1) (Nat.succ_lt_succ hk)

theorem keeps_lines {P : Position → Prop} {n : Nat} {s : Balance} {ls : List Text}
    (hs : ∀ o ∈ s.opened, P o.2)
    (hls : ∀ i l, ls[i]? = some l → ∀ k < l.length, P ⟨n + i, 1 + k⟩) :
    Keeps P (Balance.lines n s ls) := by
  induction ls generalizing n s with
  | nil => exact hs
  | cons l ls ih =>
    have hline : Keeps P (Balance.line n 1 s l) := keeps_line hs (hls 0 l rfl)
    rw [Balance.lines]
    cases h : Balance.line n 1 s l with
    | error d =>
      rw [h] at hline
      exact hline
    | ok s' =>
      rw [h] at hline
      refine ih hline fun i k hk => ?_
      rw [Nat.add_assoc, Nat.add_comm 1 i]
      exact hls (i + 1) k hk

theorem on_brackets {t : Text} {d : Diagnosis} (h : brackets t = some d) :
    d.place.On 1 t.lines := by
  have hkeeps : Keeps (fun p => (Place.point p).On 1 t.lines)
      (Balance.lines 1 Balance.start t.lines) := by
    refine keeps_lines (by simp [Balance.start]) fun i l hl k hk => ?_
    have hcolumn : 1 + k ≤ l.length + 1 := by omega
    exact ⟨i, l, rfl, hl, Nat.le_add_right 1 k, hcolumn⟩
  rw [brackets] at h
  split at h
  · next e he =>
    cases h
    rw [he] at hkeeps
    obtain ⟨p, hp, hplace⟩ := hkeeps
    exact hplace ▸ hp
  · next s hs =>
    rw [hs] at hkeeps
    obtain ⟨o, ho, rfl⟩ := Option.map_eq_some_iff.mp h
    exact hkeeps o (List.mem_of_mem_head? ho)

end Diagnosis

theorem Check.on_run {check : Check} {t message : Text} {d : Diagnosis}
    (h : check.run t t.lines message = some d) : d.place.On 1 t.lines := by
  cases check with
  | unterminatedString =>
    rw [run, Option.ite_none_right_eq_some] at h
    exact Diagnosis.on_unterminatedString h.2
  | missingComma => exact Diagnosis.on_missingComma h
  | missingColon => exact Diagnosis.on_missingColon h
  | delimiterBalance => exact Diagnosis.on_brackets h
  | trailingComma => exact Diagnosis.on_trailingComma h
  | duplicateKey => exact Diagnosis.on_duplicateKey h

/-! ### Known lines -/

namespace Diagnosis

variable {d : Diagnosis}

theorem exists_judge {judge : Nat → Text → Text → Option Diagnosis} {n : Nat} {ls : List Text}
    (h : firstPair judge n ls = some d) : ∃ m l next, judge m l next = some d := by
  induction ls generalizing n with
  | nil => cases h
  | cons l ls ih =>
    cases ls with
    | nil => cases h
    | cons next rest =>
      rw [firstPair] at h
      cases hjudge : judge n l next with
      | some e =>
        rw [hjudge] at h
        exact ⟨n, l, next, hjudge.trans h⟩
      | none =>
        rw [hjudge] at h
        exact ih h

theorem exists_line_unterminatedString {n : Nat} {ls : List Text}
    (h : unterminatedString.go n ls = some d) : ∃ m, d.place.line? = some m := by
  induction ls generalizing n with
  | nil => cases h
  | cons l ls ih =>
    rw [unterminatedString.go] at h
    split at h
    · cases h
      exact ⟨n, rfl⟩
    · exact ih h

theorem exists_line_duplicateKey {n : Nat} {ls : List Text} {seen : List (Text × Nat)}
    (h : duplicateKey.go n ls seen = some d) : ∃ m, d.place.line? = some m := by
  induction ls generalizing n seen with
  | nil => cases h
  | cons l ls ih =>
    rw [duplicateKey.go] at h
    split at h
    · exact ih h
    · split at h
      · cases h
        exact ⟨n, rfl⟩
      · exact ih h

theorem exists_line_brackets {t : Text} (h : brackets t = some d) :
    ∃ m, d.place.line? = some m := by
  have hkeeps : Keeps (fun _ => True) (Balance.lines 1 Balance.start t.lines) :=
    keeps_lines (fun _ _ => trivial) fun _ _ _ _ _ => trivial
  rw [brackets] at h
  split at h
  · next e he =>
    cases h
    rw [he] at hkeeps
    obtain ⟨p, -, hplace⟩ := hkeeps
    exact ⟨p.line, by rw [hplace]; rfl⟩
  · obtain ⟨o, -, rfl⟩ := Option.map_eq_some_iff.mp h
    exact ⟨o.2.line, rfl⟩

end Diagnosis

theorem Check.exists_line {check : Check} {t message : Text} {ls : List Text} {d : Diagnosis}
    (h : check.run t ls message = some d) : ∃ m, d.place.line? = some m := by
  cases check with
  | unterminatedString =>
    rw [run, Option.ite_none_right_eq_some] at h
    exact Diagnosis.exists_line_unterminatedString h.2
  | missingComma =>
    obtain ⟨m, l, next, hd⟩ := Diagnosis.exists_judge h
    simp only [Option.ite_none_left_eq_some, Option.ite_none_right_eq_some] at hd
    obtain ⟨-, -, ⟨⟩⟩ := hd
    exact ⟨m, rfl⟩
  | missingColon =>
    obtain ⟨m, l, next, hd⟩ := Diagnosis.exists_judge h
    simp only [Option.ite_none_right_eq_some] at hd
    obtain ⟨-, ⟨⟩⟩ := hd
    exact ⟨m, rfl⟩
  | delimiterBalance => exact Diagnosis.exists_line_brackets h
  | trailingComma =>
    obtain ⟨m, l, next, hd⟩ := Diagnosis.exists_judge h
    simp only [Option.ite_none_right_eq_some] at hd
    obtain ⟨-, hd⟩ := hd
    split at hd
    · obtain ⟨b, -, rfl⟩ := Option.map_eq_some_iff.mp hd
      exact ⟨m, rfl⟩
    · cases hd
  | duplicateKey => exact Diagnosis.exists_line_duplicateKey h

end JsonDesk
