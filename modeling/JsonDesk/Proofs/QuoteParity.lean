import JsonDesk.Diagnosis.Brackets
import JsonDesk.Diagnosis.Lines
import Mathlib.Algebra.GroupWithZero.Nat
import Mathlib.Data.List.Basic
import Mathlib.Data.List.Induction
import Mathlib.Data.Nat.Bits

/-!
Which quotes count.  A quote is taken by the backslash before it just if the run of backslashes that
ends there is of odd length, and both readers of quotes go by that: the one that counts those of a
line, and the scan of brackets, for which each of them starts or ends a string.  So where no line
ends with a backslash the scan is inside a string at the end of a line just if the quotes counted up
to there are odd in number.
-/

set_option autoImplicit false

namespace JsonDesk

namespace CodePoint

/-- A backslash that is not taken itself takes the next code point. -/
def takes (escaped : Bool) (c : CodePoint) : Bool := !escaped && c = CodePoint.ofChar '\\'

/-- A quote that is not taken counts. -/
def counts (escaped : Bool) (c : CodePoint) : Bool := !escaped && c = CodePoint.ofChar '"'

theorem quote_ne_backslash : CodePoint.ofChar '"' ≠ CodePoint.ofChar '\\' := by decide

end CodePoint

namespace Text

def backslashesAtEnd (t : Text) : Nat :=
  (t.reverse.takeWhile (· = CodePoint.ofChar '\\')).length

def escapedAfter (escaped : Bool) (t : Text) : Bool := t.foldl CodePoint.takes escaped

theorem backslashesAtEnd_concat (t : Text) (c : CodePoint) : backslashesAtEnd (t ++ [c]) =
    if c = CodePoint.ofChar '\\' then backslashesAtEnd t + 1 else 0 := by
  by_cases h : c = CodePoint.ofChar '\\' <;> simp [backslashesAtEnd, h]

theorem escapedAfter_concat (escaped : Bool) (t : Text) (c : CodePoint) :
    escapedAfter escaped (t ++ [c]) = c.takes (escapedAfter escaped t) := by
  simp [escapedAfter]

/-- What follows a run of backslashes is taken just if the run is of odd length. -/
theorem escapedAfter_eq (t : Text) : escapedAfter false t = (backslashesAtEnd t).bodd := by
  induction t using List.reverseRecOn with
  | nil => rfl
  | append_singleton t c ih =>
    rw [escapedAfter_concat, backslashesAtEnd_concat, ih, CodePoint.takes]
    split
    · next hc => simp [hc]
    · next hc => simp [hc]

theorem escapedAfter_of_getLast? {t : Text} (h : t.getLast? ≠ some (CodePoint.ofChar '\\')) :
    escapedAfter false t = false := by
  obtain rfl | ⟨t, c, rfl⟩ := List.eq_nil_or_concat' t
  · rfl
  · rw [List.getLast?_concat, ne_eq, Option.some.injEq] at h
    simp [escapedAfter_concat, CodePoint.takes, h]

/-! ### Counting -/

theorem unescapedQuotes_go_cons (c : CodePoint) (t : Text) (escaped : Bool) (n : Nat) :
    unescapedQuotes.go (c :: t) escaped n =
      unescapedQuotes.go t (c.takes escaped) (n + (c.counts escaped).toNat) := by
  cases escaped with
  | true => rfl
  | false =>
    rw [unescapedQuotes.go, CodePoint.takes, CodePoint.counts]
    by_cases hq : c = CodePoint.ofChar '"'
    · rw [hq, if_neg CodePoint.quote_ne_backslash, decide_eq_false CodePoint.quote_ne_backslash]
      simp
    · by_cases hb : c = CodePoint.ofChar '\\' <;> simp [hb, hq, CodePoint.quote_ne_backslash.symm]

theorem unescapedQuotes_go_concat (t : Text) (c : CodePoint) (escaped : Bool) (n : Nat) :
    unescapedQuotes.go (t ++ [c]) escaped n =
      unescapedQuotes.go t escaped n + (c.counts (escapedAfter escaped t)).toNat := by
  induction t generalizing escaped n with
  | nil =>
    rw [List.nil_append, unescapedQuotes_go_cons]
    rfl
  | cons d t ih =>
    rw [List.cons_append, unescapedQuotes_go_cons, ih, unescapedQuotes_go_cons]
    rfl

theorem unescapedQuotes_go_eq (t : Text) (escaped : Bool) (n : Nat) :
    unescapedQuotes.go t escaped n = n + unescapedQuotes.go t escaped 0 := by
  induction t generalizing escaped n with
  | nil => rfl
  | cons c t ih =>
    rw [unescapedQuotes_go_cons, unescapedQuotes_go_cons, ih, ih _ (0 + _)]
    omega

/-- A quote stands at an offset, and the run of backslashes right before it is of even length. -/
def CountsAt (t : Text) (i : Nat) : Prop :=
  t[i]? = some (CodePoint.ofChar '"') ∧ backslashesAtEnd (t.take i) % 2 = 0

instance (t : Text) : DecidablePred (CountsAt t) := fun _ =>
  inferInstanceAs (Decidable (_ ∧ _))

theorem countsAt_concat_of_lt {t : Text} {i : Nat} (c : CodePoint) (h : i < t.length) :
    CountsAt (t ++ [c]) i ↔ CountsAt t i := by
  rw [CountsAt, CountsAt, List.getElem?_append_left h,
    List.take_append_of_le_length (Nat.le_of_lt h)]

theorem countsAt_concat_length (t : Text) (c : CodePoint) :
    CountsAt (t ++ [c]) t.length ↔ c.counts (escapedAfter false t) = true := by
  rw [CountsAt, List.getElem?_concat_length, List.take_left, escapedAfter_eq, CodePoint.counts,
    Nat.mod_two_of_bodd]
  cases (backslashesAtEnd t).bodd <;> simp

/-- The quotes that are counted are those behind runs of backslashes of even length. -/
theorem unescapedQuotes_eq (t : Text) :
    t.unescapedQuotes = (List.range t.length).countP fun i => CountsAt t i := by
  induction t using List.reverseRecOn with
  | nil => rfl
  | append_singleton t c ih =>
    have hbefore : (List.range t.length).countP (fun i => CountsAt (t ++ [c]) i) =
        (List.range t.length).countP (fun i => CountsAt t i) :=
      List.countP_congr fun i hi => by
        simpa using countsAt_concat_of_lt c (List.mem_range.mp hi)
    rw [unescapedQuotes, unescapedQuotes_go_concat, ← unescapedQuotes, List.length_append,
      List.length_singleton, List.range_succ, List.countP_append, hbefore, ih,
      List.countP_singleton]
    by_cases h : c.counts (escapedAfter false t) = true
    · simp [countsAt_concat_length, h]
    · simp [countsAt_concat_length, h]

end Text

/-! ### The scan of brackets -/

namespace Balance

open Text

variable {s s' : Balance} {p : Position} {c : CodePoint} {l : Text} {ls before : List Text}

/-- The step lemma: a code point that goes through leaves the marks as counting has them. -/
theorem marks_step (h : s.step p c = .ok s') :
    s'.escaped = c.takes s.escaped ∧ s'.inString = (s.inString ^^ c.counts s.escaped) := by
  have := CodePoint.quote_ne_backslash.symm
  unfold step at h
  unfold CodePoint.takes CodePoint.counts
  repeat' split at h
  all_goals cases h
  all_goals simp_all

theorem marks_line {n column : Nat} (h : line n column s l = .ok s') :
    s'.escaped = escapedAfter s.escaped l ∧
      s'.inString = (s.inString ^^ (unescapedQuotes.go l s.escaped 0).bodd) := by
  induction l generalizing column s with
  | nil =>
    cases h
    simp [escapedAfter, unescapedQuotes.go]
  | cons c l ih =>
    rw [line] at h
    cases hstep : s.step ⟨n, column⟩ c with
    | error d => simp [hstep] at h
    | ok s₁ =>
      rw [hstep] at h
      obtain ⟨hescaped, hstring⟩ := marks_step hstep
      obtain ⟨hescaped', hstring'⟩ := ih h
      rw [hescaped] at hescaped' hstring'
      have hparity : (c.counts s.escaped).toNat.bodd = c.counts s.escaped := by
        cases c.counts s.escaped <;> rfl
      refine ⟨hescaped', ?_⟩
      rw [unescapedQuotes_go_cons, unescapedQuotes_go_eq, Nat.zero_add, Nat.bodd_add, hparity,
        hstring', hstring, Bool.xor_assoc]

/-- No backslash at the end of a line reaches over to the next one, so each line is counted for
itself. -/
theorem marks_lines {n : Nat} (h : lines n s ls = .ok s') (hs : s.escaped = false)
    (hls : ∀ l ∈ ls, l.getLast? ≠ some (CodePoint.ofChar '\\')) :
    s'.inString = (s.inString ^^ (ls.map unescapedQuotes).sum.bodd) := by
  induction ls generalizing n s with
  | nil =>
    cases h
    simp
  | cons l ls ih =>
    rw [List.forall_mem_cons] at hls
    rw [lines] at h
    cases hline : line n 1 s l with
    | error d => simp [hline] at h
    | ok s₁ =>
      rw [hline] at h
      obtain ⟨hescaped, hstring⟩ := marks_line hline
      rw [hs] at hescaped hstring
      have hs₁ : s₁.escaped = false := hescaped.trans (escapedAfter_of_getLast? hls.1)
      rw [ih h hs₁ hls.2, hstring, ← unescapedQuotes, List.map_cons, List.sum_cons, Nat.bodd_add,
        Bool.xor_assoc]

theorem lines_append_ok {n : Nat} (h : lines n s before = .ok s') (after : List Text) :
    lines n s (before ++ after) = lines (before.length + n) s' after := by
  induction before generalizing n s with
  | nil =>
    cases h
    rw [List.nil_append, List.length_nil, Nat.zero_add]
  | cons l before ih =>
    rw [lines] at h
    rw [List.cons_append, lines, List.length_cons, Nat.add_assoc, Nat.add_comm 1]
    cases hline : line n 1 s l with
    | error d => simp [hline] at h
    | ok s₁ =>
      rw [hline] at h
      exact ih h

def outcome : Except Diagnosis Balance → Option Diagnosis
  | .error d => some d
  | .ok s => s.verdict

theorem brackets_eq_outcome (t : Text) :
    Diagnosis.brackets t = outcome (lines 1 start t.lines) := by
  unfold Diagnosis.brackets
  cases lines 1 start t.lines <;> rfl

end Balance

namespace Diagnosis

open Balance

/-- The count of the quotes of a line is that of the quotes behind runs of backslashes of even
length.  In a text in which no line ends with a backslash the scan of brackets goes by the same
quotes: when it comes to the end of a line, and goes on with the others, it is inside a string just
if the counts of the lines so far add up to an odd number. -/
theorem quotes_counted :
    (∀ l : Text, l.unescapedQuotes = (List.range l.length).countP fun i => l.CountsAt i) ∧
    ∀ t : Text, (∀ l ∈ t.lines, l.getLast? ≠ some (CodePoint.ofChar '\\')) →
      ∀ before after s, t.lines = before ++ after → lines 1 start before = .ok s →
        (s.inString = true ↔ (before.map Text.unescapedQuotes).sum % 2 = 1) ∧
          brackets t = outcome (lines (before.length + 1) s after) := by
  refine ⟨Text.unescapedQuotes_eq, fun t ht before after s hlines hs => ⟨?_, ?_⟩⟩
  · have hbefore : ∀ l ∈ before, l.getLast? ≠ some (CodePoint.ofChar '\\') :=
      fun l hl => ht l (hlines ▸ List.mem_append_left after hl)
    rw [marks_lines hs rfl hbefore, Nat.mod_two_of_bodd]
    cases (before.map Text.unescapedQuotes).sum.bodd <;> simp [start]
  · rw [brackets_eq_outcome, hlines, lines_append_ok hs]

/-- Two quotes that count, one behind an escaped backslash, and one that opens a string on the
first line; the quote that closes it is on the second. -/
theorem quotes_counted_across :
    let t : Text := "[\"a\\\\\", \"\\\"b\nc\"]"
    let before : List Text := ["[\"a\\\\\", \"\\\"b"]
    let after : List Text := ["c\"]"]
    (∀ l ∈ t.lines, l.getLast? ≠ some (CodePoint.ofChar '\\')) ∧
      t.lines = before ++ after ∧ (before.map Text.unescapedQuotes).sum = 3 ∧
      ∃ s, lines 1 start before = .ok s ∧ s.inString = true := by
  intro t before after
  have ht : ∀ l ∈ t.lines, l.getLast? ≠ some (CodePoint.ofChar '\\') := by decide
  have hlines : t.lines = before ++ after := by decide
  have hcount : (before.map Text.unescapedQuotes).sum = 3 := by decide
  obtain ⟨hstring, -⟩ := quotes_counted.2 t ht before after _ hlines rfl
  exact ⟨ht, hlines, hcount, _, rfl, hstring.mpr (by rw [hcount])⟩

end Diagnosis

end JsonDesk
