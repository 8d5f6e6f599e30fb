import JsonDesk.Diagnosis.Brackets
import JsonDesk.Proofs.Places

/-!
The balance in one pass over the raw text.  A pass takes every code point in order, the line feeds
included, and keeps the position by the line feeds that it has passed.  Going through the lines is
the pass that leaves a line feed out; a backslash at the end of a line therefore takes the first
code point of the next line.  The pass in which a backslash takes whatever comes next, a line feed
as well, has the same outcome as long as no backslash stands right before a line feed.
-/

set_option autoImplicit false

namespace JsonDesk

/-- A backslash that is not taken itself takes a line feed. -/
inductive Text.TakesNewline : Text → Prop
  | here {t : Text} : TakesNewline (CodePoint.ofChar '\\' :: CodePoint.ofChar '\n' :: t)
  | taken {c : CodePoint} {t : Text} :
    TakesNewline t → TakesNewline (CodePoint.ofChar '\\' :: c :: t)
  | later {c : CodePoint} {t : Text} :
    c ≠ CodePoint.ofChar '\\' → TakesNewline t → TakesNewline (c :: t)

namespace Balance

variable {s s' : Balance} {d : Diagnosis} {p : Position} {c : CodePoint} {l t u : Text}
  {ls : List Text}
  {take : Balance → Position → CodePoint → Except Diagnosis Balance}

def pass (take : Balance → Position → CodePoint → Except Diagnosis Balance) :
    Balance → Position → Text → Except Diagnosis Balance
  | s, _, [] => .ok s
  | s, p, c :: t =>
    match take s p c with
    | .error d => .error d
    | .ok s => pass take s (Text.advance p c) t

def stepOver (s : Balance) (p : Position) (c : CodePoint) : Except Diagnosis Balance :=
  if c = '\n' then .ok s else s.step p c

theorem pass_cons_ok (h : take s p c = .ok s') (t : Text) :
    pass take s p (c :: t) = pass take s' (Text.advance p c) t := by
  rw [pass, h]

theorem pass_cons_error (h : take s p c = .error d) (t : Text) :
    pass take s p (c :: t) = .error d := by
  rw [pass, h]

theorem pass_append (take : Balance → Position → CodePoint → Except Diagnosis Balance)
    (s : Balance) (p : Position) (t u : Text) :
    pass take s p (t ++ u) =
      match pass take s p t with
      | .error d => .error d
      | .ok s => pass take s (t.foldl Text.advance p) u := by
  induction t generalizing s p with
  | nil => rfl
  | cons c t ih =>
    rw [List.cons_append, pass, pass, List.foldl_cons]
    cases take s p c with
    | error d => rfl
    | ok s' => exact ih s' _

theorem pass_stepOver (n column : Nat) (s : Balance) (h : t.lines = l :: ls) :
    pass stepOver s ⟨n, column⟩ t =
      match line n column s l with
      | .error d => .error d
      | .ok s => lines (n + 1) s ls := by
  induction t generalizing n column s l ls with
  | nil =>
    cases h
    rfl
  | cons c t ih =>
    obtain ⟨k, ks, hk⟩ := List.exists_cons_of_ne_nil (Text.lines_ne_nil t)
    by_cases hc : c = CodePoint.ofChar '\n'
    · subst hc
      rw [Text.lines_newline] at h
      cases h
      rw [pass, stepOver, if_pos rfl, hk]
      exact ih (n + 1) 1 s hk
    · rw [Text.lines_cons hc hk] at h
      cases h
      rw [pass, stepOver, if_neg hc, line]
      cases s.step ⟨n, column⟩ c with
      | error d => rfl
      | ok s' =>
        simp only [Text.advance, if_neg hc]
        exact ih n (column + 1) s' hk

/-! ### Line feeds that are taken -/

theorem step_escaped (h : s.escaped = true) (p : Position) (c : CodePoint) :
    s.step p c = .ok { s with escaped := false } := by
  rw [step, if_pos h]

theorem step_backslash (h : s.escaped = false) (p : Position) :
    s.step p (CodePoint.ofChar '\\') = .ok { s with escaped := true } := by
  rw [step, if_neg (by simp [h]), if_pos rfl]

theorem step_newline (h : s.escaped = false) (p : Position) :
    s.step p (CodePoint.ofChar '\n') = .ok s := by
  rw [step, if_neg (by simp [h]), if_neg (by decide), if_neg (by decide)]
  split <;> rfl

theorem escaped_of_step (hs : s.escaped = false) (hc : c ≠ CodePoint.ofChar '\\')
    (h : s.step p c = .ok s') : s'.escaped = false := by
  rw [step, if_neg (by simp [hs]), if_neg hc] at h
  repeat' split at h
  all_goals cases h
  all_goals exact hs

theorem stepOver_eq_step (h : s.escaped = false) (p : Position) (c : CodePoint) :
    s.stepOver p c = s.step p c := by
  rw [stepOver]
  split
  · next hc => rw [hc, step_newline h]
  · rfl

/-- As long as no line feed is taken it does not matter whether line feeds are looked at. -/
theorem pass_step (s : Balance) (p : Position) (t : Text) (hs : s.escaped = false)
    (h : ¬ t.TakesNewline) : pass step s p t = pass stepOver s p t := by
  match t with
  | [] => rfl
  | c :: t =>
    by_cases hc : c = CodePoint.ofChar '\\'
    · subst hc
      have hstep := step_backslash hs p
      rw [pass_cons_ok hstep, pass_cons_ok (by rwa [stepOver_eq_step hs])]
      -- the code point behind the backslash is taken on both sides, since it is no line feed
      match t with
      | [] => rfl
      | c :: t =>
        have hc : c ≠ CodePoint.ofChar '\n' := by
          rintro rfl
          exact h .here
        have hstep (q : Position) := step_escaped (s := { s with escaped := true }) rfl q c
        rw [pass_cons_ok (hstep _), pass_cons_ok (by rw [stepOver, if_neg hc, hstep])]
        exact pass_step _ _ t rfl fun ht => h (.taken ht)
    · rw [pass, pass, stepOver_eq_step hs]
      cases hstep : s.step p c with
      | error d => rfl
      | ok s' => exact pass_step s' _ t (escaped_of_step hs hc hstep) fun ht => h (.later hc ht)

theorem step_closer (he : s.escaped = false) (hq : s.inString = false) (p : Position)
    (b : Bracket) : s.step p b.closer =
      match s.opened with
      | [] => .error ⟨.point p, .unexpectedCloser b⟩
      | (o, q) :: rest =>
        if o = b then .ok { s with opened := rest }
        else .error ⟨.point p, .mismatch o b q.line⟩ := by
  obtain ⟨opened, inString, escaped⟩ := s
  subst he hq
  cases b <;> rfl

theorem exists_wrong_closer (he : s.escaped = false) (hq : s.inString = false) :
    ∃ b : Bracket, ∀ p, ∃ d, s.step p b.closer = .error d ∧
      ∀ opened, d.hint ≠ .unclosed opened := by
  cases hopened : s.opened with
  | nil => exact ⟨.brace, fun p => ⟨_, by rw [step_closer he hq, hopened], by simp⟩⟩
  | cons o rest =>
    obtain ⟨o, q⟩ := o
    cases o with
    | brace => exact ⟨.square, fun p => ⟨_, by rw [step_closer he hq, hopened]; rfl, by simp⟩⟩
    | square => exact ⟨.brace, fun p => ⟨_, by rw [step_closer he hq, hopened]; rfl, by simp⟩⟩

theorem hint_verdict {d : Diagnosis} (h : s.verdict = some d) :
    ∃ opened, d.hint = .unclosed opened := by
  obtain ⟨o, -, rfl⟩ := Option.map_eq_some_iff.mp h
  exact ⟨o.1, rfl⟩

/-- A line feed that is taken on one side only shifts what is taken: the same code points behind
it are then refused on one side and go through on the other. -/
theorem exists_shifted (s : Balance) (h : s.escaped = true) : ∃ u, ∀ p, ∃ d s',
    pass step s p (CodePoint.ofChar '\n' :: u) = .error d ∧
      (∀ opened, d.hint ≠ .unclosed opened) ∧
      pass stepOver s p (CodePoint.ofChar '\n' :: u) = .ok s' := by
  obtain ⟨opened, inString, escaped⟩ := s
  subst h
  obtain ⟨b, hb⟩ := exists_wrong_closer (s := ⟨opened, false, false⟩) rfl rfl
  have hnewline (p : Position) := step_escaped (s := ⟨opened, inString, true⟩) rfl p '\n'
  have hover (p : Position) : stepOver ⟨opened, inString, true⟩ p '\n' = .ok _ := if_pos rfl
  have hcloser (s : Balance) (p : Position) : s.stepOver p b.closer = s.step p b.closer :=
    if_neg (by cases b <;> decide)
  cases inString with
  | false =>
    refine ⟨[b.closer], fun p => ?_⟩
    obtain ⟨d, hd, hhint⟩ := hb (Text.advance p '\n')
    refine ⟨d, ⟨opened, false, false⟩, ?_, hhint, ?_⟩
    · rw [pass_cons_ok (hnewline p), pass_cons_error hd]
    · rw [pass_cons_ok (hover p), pass, hcloser, step_escaped rfl]
      rfl
  | true =>
    refine ⟨['"', b.closer], fun p => ?_⟩
    obtain ⟨d, hd, hhint⟩ := hb (Text.advance (Text.advance p '\n') '"')
    have hquote (q : Position) :
        step ⟨opened, true, false⟩ q '"' = .ok ⟨opened, false, false⟩ := rfl
    have hkept (q : Position) :
        stepOver ⟨opened, true, true⟩ q '"' = .ok ⟨opened, true, false⟩ := rfl
    refine ⟨d, ⟨opened, true, false⟩, ?_, hhint, ?_⟩
    · rw [pass_cons_ok (hnewline p), pass_cons_ok (hquote _), pass_cons_error hd]
    · rw [pass_cons_ok (hover p), pass_cons_ok (hkept _), pass, hcloser]
      cases b <;> rfl

end Balance

namespace Diagnosis
open Balance

/-- The outcome of one pass over a text: the first delimiter that does not match, or the one left
open. -/
def inOnePass (take : Balance → Position → CodePoint → Except Diagnosis Balance) (t : Text) :
    Option Diagnosis :=
  match pass take start ⟨1, 1⟩ t with
  | .error d => some d
  | .ok s => s.verdict

theorem brackets_eq_pass (t : Text) : brackets t = inOnePass stepOver t := by
  obtain ⟨l, ls, hl⟩ := List.exists_cons_of_ne_nil (Text.lines_ne_nil t)
  rw [brackets, inOnePass, pass_stepOver 1 1 start hl, hl]
  rfl

/-- The check of delimiters is the pass that leaves the line feeds out.  It is the pass in which a
backslash takes whatever comes next, unless a backslash takes a line feed; and wherever a text
leaves a backslash with nothing to take, a line feed and something behind it tell the two apart. -/
theorem brackets_in_one_pass (t : Text) :
    brackets t = inOnePass stepOver t ∧
      (¬ t.TakesNewline → brackets t = inOnePass step t) ∧
      ∀ s, ¬ t.TakesNewline → pass step start ⟨1, 1⟩ t = .ok s → s.escaped = true →
        ∃ u, brackets (t ++ CodePoint.ofChar '\n' :: u) ≠
          inOnePass step (t ++ CodePoint.ofChar '\n' :: u) := by
  refine ⟨brackets_eq_pass t, fun h => ?_, fun s h hs hescaped => ?_⟩
  · rw [brackets_eq_pass, inOnePass, inOnePass, pass_step start _ t rfl h]
  · obtain ⟨u, hu⟩ := exists_shifted s hescaped
    obtain ⟨d, s', hrefused, hhint, htaken⟩ := hu (t.foldl Text.advance ⟨1, 1⟩)
    have hsame := hs
    rw [pass_step start _ t rfl h] at hsame
    refine ⟨u, fun heq => ?_⟩
    rw [brackets_eq_pass, inOnePass, inOnePass, pass_append, pass_append, hs, hsame] at heq
    simp only [hrefused, htaken] at heq
    obtain ⟨opened, hopened⟩ := hint_verdict heq
    exact hhint opened hopened

/-- A backslash, a line feed and an opening brace: the brace goes unseen, since the backslash takes
it instead of the line feed. -/
theorem brackets_in_one_pass_brace :
    brackets "\\\n\x7b" = none ∧
      inOnePass step "\\\n\x7b" = some ⟨.point ⟨2, 1⟩, .unclosed .brace⟩ ∧
      ∃ u, brackets (Text.ofString "\\" ++ CodePoint.ofChar '\n' :: u) ≠
        inOnePass step (Text.ofString "\\" ++ CodePoint.ofChar '\n' :: u) := by
  refine ⟨by decide, by decide, ?_⟩
  have htakes : ¬ Text.TakesNewline "\\" := by
    rintro (_ | _ | ⟨hc, -⟩)
    exact hc rfl
  exact (brackets_in_one_pass "\\").2.2 ⟨[], false, true⟩ htakes rfl rfl

end Diagnosis

end JsonDesk
