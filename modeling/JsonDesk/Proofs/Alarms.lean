import JsonDesk.Proofs.Acceptance
import JsonDesk.Proofs.Outside
import JsonDesk.Proofs.Trimming

/-!
The checks that look at the text alone find nothing wrong with a valid text.  A valid text is cut
into lines, each of which starts and ends outside strings; what each check wants to know of a line
is then read off what flows through it.
-/

set_option autoImplicit false

namespace JsonDesk

namespace Text

/-- Whether a code point is none of the white space that is taken off the ends of a line. -/
def solid (c : CodePoint) : Bool := !c.isBlank

theorem find?_solid (l : Text) : l.find? solid = (l.dropWhile CodePoint.isBlank).head? := by
  induction l with
  | nil => rfl
  | cons c l ih => cases hc : c.isBlank <;> simp [solid, hc, ih]

theorem find?_solid_of_strip {l r : Text} {c : CodePoint} (h : l.strip = c :: r) :
    l.find? solid = some c := by
  have hprefix : l.strip <+: l.dropWhile CodePoint.isBlank := isPrefix_dropRightWhile _ _
  obtain ⟨u, hu⟩ := hprefix
  rw [find?_solid, ← hu, h]
  rfl

theorem find?_solid_of_getLast_strip {l : Text} {c : CodePoint} (h : c ∈ l.strip.getLast?) :
    l.reverse.find? solid = some c := by
  rw [strip, trim, dropRightWhile, List.getLast?_reverse, ← find?_solid] at h
  conv_lhs => rw [← List.takeWhile_append_dropWhile (p := CodePoint.isBlank) (l := l)]
  rw [List.reverse_append, List.find?_append, Option.mem_def.mp h, Option.some_or]

end Text

namespace Grammar

/-- The lines of a text that flows, each from where the one before it ended. -/
inductive Flows : Spot → List Text → Spot → Prop
  | last {s s' : Spot} {l : Text} : Flow s l s' → Flows s [l] s'
  | line {s m s' : Spot} {l l' : Text} {ls : List Text} :
    Flow s l m → Flows m (l' :: ls) s' → Flows s (l :: l' :: ls) s'

theorem Flows.prepend {s m s' : Spot} {u l : Text} {ls : List Text} (hu : Flow s u m)
    (h : Flows m (l :: ls) s') : Flows s ((u ++ l) :: ls) s' := by
  cases h with
  | last hl => exact .last (hu.append hl)
  | line hl hls => exact .line (hu.append hl) hls

theorem Flow.lines {s s' : Spot} {t : Text} (h : Flow s t s') : Flows s t.lines s' := by
  have prepend {s m s' : Spot} {u t : Text} (hu : Flow s u m) (hn : CodePoint.ofChar '\n' ∉ u)
      (ih : Flows m t.lines s') : Flows s (Text.lines (u ++ t)) s' := by
    cases hl : t.lines with
    | nil => exact absurd hl t.lines_ne_nil
    | cons l ls =>
      rw [Text.lines_append hn hl]
      rw [hl] at ih
      exact ih.prepend hu
  induction h with
  | done => exact .last .done
  | @blank s s' c t hc _ ih =>
    by_cases hn : c = CodePoint.ofChar '\n'
    · subst hn
      rw [Text.lines_newline]
      cases hl : t.lines with
      | nil => exact absurd hl t.lines_ne_nil
      | cons l ls =>
        rw [hl] at ih
        exact .line .done ih
    · exact prepend (.blank hc .done) (by simpa using Ne.symm hn) ih
  | @plain s s' c t hc _ ih =>
    have hn : CodePoint.ofChar '\n' ∉ [c] := by
      simp only [List.mem_singleton]
      rintro rfl
      exact absurd hc (by decide)
    exact prepend (flow_plain hc s) hn ih
  | @string s s' w t hready hw _ ih =>
    have hn : CodePoint.ofChar '\n' ∉ ("\"" ++ w ++ "\"" : Text) := by
      simp [Text.ofString, hw.no_newline]
    have hstring := Flow.string hready hw (.done (s := ⟨some '"', s.opened⟩))
    rw [List.append_nil] at hstring
    exact prepend hstring hn ih
  | @opener s s' t b _ ih =>
    exact prepend (u := [b.opener]) (.opener b .done) (by cases b <;> decide) ih
  | @closer last opened s' t b hlast _ ih =>
    exact prepend (u := [b.closer]) (.closer b hlast .done) (by cases b <;> decide) ih

theorem Flows.outside {s s' : Spot} {ls : List Text} (h : Flows s ls s') :
    ∀ l ∈ ls, Outside l := by
  induction h with
  | last hl => simpa using hl.outside
  | line hl _ ih => simpa [hl.outside] using ih

/-! ### What a line tells -/

theorem Flow.last_eq {s s' : Spot} {l : Text} (h : Flow s l s') :
    s'.last = (l.reverse.find? Text.solid).or s.last := by
  induction h with
  | done => simp
  | blank hc _ ih => simp [ih, Text.solid, hc]
  | plain hc _ ih => simp [ih, Text.solid, hc.1]
  | @string s s' w t _ _ _ ih =>
    have hq : Text.solid (CodePoint.ofChar '"') = true := by decide
    simp [ih, Text.ofString, hq]
  | opener b _ ih =>
    have hb : Text.solid b.opener = true := by cases b <;> decide
    simp [ih, hb]
  | closer b _ _ ih =>
    have hb : Text.solid b.closer = true := by cases b <;> decide
    simp [ih, hb]

theorem Flow.first {s s' : Spot} {l : Text} {c : CodePoint} (h : Flow s l s')
    (hc : l.find? Text.solid = some c) :
    (c = CodePoint.ofChar '"' → Ready s.last) ∧
      ∀ b, Bracket.ofCloser? c = some b → s.last ≠ some (CodePoint.ofChar ',') := by
  induction h with
  | done => simp at hc
  | blank hb _ ih => exact ih (by simpa [Text.solid, hb] using hc)
  | plain hp _ _ =>
    simp only [List.find?_cons, Text.solid, hp.1, Bool.not_false, Option.some.injEq] at hc
    subst hc
    have hbrace := hp.ne (a := '\x7d') (by decide)
    have hsquare := hp.ne (a := ']') (by decide)
    exact ⟨fun hq => absurd hq (hp.ne (by decide)), by simp [Bracket.ofCloser?, hbrace, hsquare]⟩
  | string hready _ _ _ =>
    have hq : Text.solid (CodePoint.ofChar '"') = true := by decide
    simp only [Text.ofString, String.reduceToList, List.map_cons, List.map_nil, List.cons_append,
      List.find?_cons, hq, Option.some.injEq] at hc
    subst hc
    exact ⟨fun _ => hready, by simp [Bracket.ofCloser?]⟩
  | opener b _ _ =>
    have hb : b.opener.isBlank = false := by cases b <;> decide
    simp only [List.find?_cons, Text.solid, hb, Bool.not_false, Option.some.injEq] at hc
    subst hc
    cases b <;> simp [Bracket.opener, Bracket.ofCloser?]
  | closer b hlast _ _ =>
    have hb : b.closer.isBlank = false := by cases b <;> decide
    simp only [List.find?_cons, Text.solid, hb, Bool.not_false, Option.some.injEq] at hc
    subst hc
    refine ⟨?_, fun _ _ => hlast⟩
    cases b <;> simp [Bracket.closer]

end Grammar

namespace Diagnosis
open Grammar

/-! ### Unterminated strings -/

theorem unescapedQuotes_quoted {w : Text} (hw : Quoted w) (r : Text) (n : Nat) :
    Text.unescapedQuotes.go (w ++ r) false n = Text.unescapedQuotes.go r false n := by
  induction hw with
  | nil => rfl
  | plain hq hb _ _ ih => simpa [Text.unescapedQuotes.go, hq, hb] using ih
  | escaped _ _ ih => simpa [Text.unescapedQuotes.go] using ih

theorem exists_unescapedQuotes {t : Text} (h : Outside t) :
    ∃ k, ∀ r n, Text.unescapedQuotes.go (t ++ r) false n =
      Text.unescapedQuotes.go r false (n + 2 * k) := by
  induction h with
  | nil => exact ⟨0, fun r n => rfl⟩
  | plain hq hb _ ih =>
    obtain ⟨k, hk⟩ := ih
    exact ⟨k, fun r n => by simpa [Text.unescapedQuotes.go, hq, hb] using hk r n⟩
  | string hw _ ih =>
    obtain ⟨k, hk⟩ := ih
    refine ⟨k + 1, fun r n => ?_⟩
    have harith : n + 2 * (k + 1) = n + 1 + 1 + 2 * k := by omega
    simp [Text.unescapedQuotes.go, unescapedQuotes_quoted hw, hk, harith]

theorem unescapedQuotes_even {l : Text} (h : Outside l) : l.unescapedQuotes % 2 = 0 := by
  obtain ⟨k, hk⟩ := exists_unescapedQuotes h
  have hgo := hk [] 0
  rw [List.append_nil] at hgo
  rw [Text.unescapedQuotes, hgo, Text.unescapedQuotes.go]
  omega

theorem unterminatedString_none {ls : List Text} (h : ∀ l ∈ ls, Outside l) :
    unterminatedString ls = none := by
  have all (n : Nat) : unterminatedString.go n ls = none := by
    induction ls generalizing n with
    | nil => rfl
    | cons l ls ih =>
      rw [unterminatedString.go, unescapedQuotes_even (h l (by simp))]
      exact ih (fun k hk => h k (by simp [hk])) (n + 1)
  exact all 1

/-! ### Commas -/

theorem firstPair_none {judge : Nat → Text → Text → Option Diagnosis}
    (hj : ∀ n l l' s m s', Flow s l m → Flow m l' s' → judge n l l' = none) {s s' : Spot}
    {ls : List Text} (h : Flows s ls s') (n : Nat) : firstPair judge n ls = none := by
  induction h generalizing n with
  | last => rfl
  | @line s m s' l l' ls hl hls ih =>
    have hpair : judge n l l' = none := by
      cases hls with
      | last hl' => exact hj _ _ _ _ _ _ hl hl'
      | line hl' _ => exact hj _ _ _ _ _ _ hl hl'
    rw [firstPair, hpair]
    exact ih (n + 1)

theorem last_of_strip {s s' : Spot} {l : Text} {c : CodePoint} (h : Flow s l s')
    (hc : c ∈ l.strip.getLast?) : s'.last = some c := by
  rw [h.last_eq, Text.find?_solid_of_getLast_strip hc]
  rfl

theorem getLast_of_endsWith {t e : Text} {c : CodePoint} (hc : e.getLast? = some c)
    (h : t.endsWith e = true) : t.getLast? = some c := by
  obtain ⟨u, rfl⟩ := List.isSuffixOf_iff_suffix.mp h
  rw [List.getLast?_append, hc]
  rfl

theorem not_ready_of_endsLikeValue {t : Text} (h : t.endsLikeValue = true) :
    ¬ Ready t.getLast? := by
  have ends {e : Text} {c : CodePoint} (he : e.getLast? = some c)
      (hc : c ∉ Text.ofString "[\x7b,:") (hte : t.endsWith e = true) : ¬ Ready t.getLast? :=
    fun hr => hc (hr c (getLast_of_endsWith he hte))
  simp only [Text.endsLikeValue, Text.endsWithAny, Bool.or_eq_true, List.any_cons, List.any_nil,
    Bool.or_false, Option.any_eq_true, decide_eq_true_eq] at h
  rcases h with ((h | h | h) | ⟨c, hc, h⟩) | h | h | h
  · exact ends rfl (by decide) h
  · exact ends rfl (by decide) h
  · exact ends rfl (by decide) h
  · intro hr
    have all : ∀ d ∈ Text.ofString "[\x7b,:",
        ¬ (d.isDecimal = true ∨ d = CodePoint.ofChar '.') := by decide
    exact all c (hr c hc) h
  · exact ends (c := 'e') rfl (by decide) h
  · exact ends (c := 'e') rfl (by decide) h
  · exact ends (c := 'l') rfl (by decide) h

theorem missingComma_none {s s' : Spot} {ls : List Text} (h : Flows s ls s') :
    missingComma ls = none := by
  refine firstPair_none ?_ h 1
  intro n l l' s m s' hl hl'
  simp only [ite_eq_left_iff, ite_eq_right_iff, reduceCtorEq, imp_false]
  rintro - ⟨hends, hquote⟩
  have hquote' : ∃ r, l'.strip = CodePoint.ofChar '"' :: r := by
    obtain ⟨r, hr⟩ := List.isPrefixOf_iff_prefix.mp hquote
    exact ⟨r, hr.symm⟩
  obtain ⟨r, hr⟩ := hquote'
  have hready := (hl'.first (Text.find?_solid_of_strip hr)).1 rfl
  cases hlast : l.strip.getLast? with
  | none =>
    rw [List.getLast?_eq_none_iff] at hlast
    rw [hlast] at hends
    cases hends
  | some c =>
    rw [last_of_strip hl hlast, ← hlast] at hready
    exact not_ready_of_endsLikeValue hends hready

theorem trailingComma_none {s s' : Spot} {ls : List Text} (h : Flows s ls s') :
    trailingComma ls = none := by
  refine firstPair_none ?_ h 1
  intro n l l' s m s' hl hl'
  simp only [ite_eq_right_iff]
  intro hcomma
  split
  · next c hc =>
    cases hb : Bracket.ofCloser? c with
    | none => rfl
    | some b =>
      have hlast := (hl'.first (Text.find?_solid_of_strip hc)).2 b hb
      exact absurd (last_of_strip hl (getLast_of_endsWith rfl hcomma)) hlast
  · rfl

/-! ### Brackets -/

def outside (opened : List (Bracket × Position)) : Balance := ⟨opened, false, false⟩

theorem line_quoted {w : Text} (hw : Quoted w) (n column : Nat) (opened : List (Bracket × Position))
    (r : Text) : ∃ column', Balance.line n column ⟨opened, true, false⟩ (w ++ r) =
      Balance.line n column' ⟨opened, true, false⟩ r := by
  induction hw generalizing column with
  | nil => exact ⟨column, rfl⟩
  | plain hq hb _ _ ih =>
    obtain ⟨column', h⟩ := ih (column + 1)
    exact ⟨column', by simpa [Balance.line, Balance.step, hq, hb] using h⟩
  | escaped _ _ ih =>
    obtain ⟨column', h⟩ := ih (column + 1 + 1)
    exact ⟨column', by simpa [Balance.line, Balance.step] using h⟩

theorem step_of_blank {c : CodePoint} (hc : c.isBlank = true) (opened : List (Bracket × Position))
    (p : Position) : (outside opened).step p c = .ok (outside opened) := by
  have ne {a : Char} (ha : (CodePoint.ofChar a).isBlank = false) : c ≠ CodePoint.ofChar a := by
    rintro rfl
    rw [ha] at hc
    cases hc
  have hq := ne (a := '"') (by decide)
  have hb := ne (a := '\\') (by decide)
  simp [Balance.step, outside, hq, hb, Bracket.ofOpener?, Bracket.ofCloser?,
    ne (a := '[') (by decide), ne (a := ']') (by decide), ne (a := '\x7b') (by decide),
    ne (a := '\x7d') (by decide)]

theorem step_of_plain {c : CodePoint} (hc : Plain c) (opened : List (Bracket × Position))
    (p : Position) : (outside opened).step p c = .ok (outside opened) := by
  simp [Balance.step, outside, Bracket.ofOpener?, Bracket.ofCloser?, hc.ne (a := '"') (by decide),
    hc.ne (a := '\\') (by decide), hc.ne (a := '[') (by decide), hc.ne (a := ']') (by decide),
    hc.ne (a := '\x7b') (by decide), hc.ne (a := '\x7d') (by decide)]

theorem step_opener (b : Bracket) (opened : List (Bracket × Position)) (p : Position) :
    (outside opened).step p b.opener = .ok (outside ((b, p) :: opened)) := by
  cases b <;> rfl

theorem step_closer (b : Bracket) (q : Position) (opened : List (Bracket × Position))
    (p : Position) : (outside ((b, q) :: opened)).step p b.closer = .ok (outside opened) := by
  cases b <;> rfl

theorem line_ok {s s' : Spot} {l : Text} (h : Flow s l s') (n column : Nat)
    {opened : List (Bracket × Position)} (ho : opened.map (·.1) = s.opened) :
    ∃ opened', Balance.line n column (outside opened) l = .ok (outside opened') ∧
      opened'.map (·.1) = s'.opened := by
  induction h generalizing column opened with
  | done => exact ⟨opened, rfl, ho⟩
  | blank hc _ ih =>
    obtain ⟨opened', hline, ho'⟩ := ih (column + 1) ho
    exact ⟨opened', by rw [Balance.line, step_of_blank hc]; exact hline, ho'⟩
  | plain hc _ ih =>
    obtain ⟨opened', hline, ho'⟩ := ih (column + 1) ho
    exact ⟨opened', by rw [Balance.line, step_of_plain hc]; exact hline, ho'⟩
  | @string s s' w t _ hw _ ih =>
    have hopen (p : Position) : (outside opened).step p '"' = .ok ⟨opened, true, false⟩ := rfl
    have hclose (p : Position) :
        Balance.step ⟨opened, true, false⟩ p '"' = .ok (outside opened) := rfl
    obtain ⟨column', hquoted⟩ := line_quoted hw n (column + 1) opened (CodePoint.ofChar '"' :: t)
    obtain ⟨opened', hline, ho'⟩ := ih (column' + 1) ho
    refine ⟨opened', ?_, ho'⟩
    rw [string_append_eq, Balance.line, hopen]
    simp only
    rw [hquoted, Balance.line, hclose]
    exact hline
  | opener b _ ih =>
    obtain ⟨opened', hline, ho'⟩ := @ih (column + 1) ((b, ⟨n, column⟩) :: opened)
      (by simpa using ho)
    exact ⟨opened', by rw [Balance.line, step_opener]; exact hline, ho'⟩
  | closer b _ _ ih =>
    cases opened with
    | nil => simp at ho
    | cons o opened =>
      obtain ⟨b', q⟩ := o
      simp only [List.map_cons, List.cons.injEq] at ho
      obtain ⟨rfl, ho⟩ := ho
      obtain ⟨opened', hline, ho'⟩ := ih (column + 1) ho
      exact ⟨opened', by rw [Balance.line, step_closer]; exact hline, ho'⟩

theorem lines_ok {s s' : Spot} {ls : List Text} (h : Flows s ls s') (n : Nat)
    {opened : List (Bracket × Position)} (ho : opened.map (·.1) = s.opened) :
    ∃ opened', Balance.lines n (outside opened) ls = .ok (outside opened') ∧
      opened'.map (·.1) = s'.opened := by
  induction h generalizing n opened with
  | last hl =>
    obtain ⟨opened', hline, ho'⟩ := line_ok hl n 1 ho
    exact ⟨opened', by simp [Balance.lines, hline], ho'⟩
  | line hl _ ih =>
    obtain ⟨opened', hline, ho'⟩ := line_ok hl n 1 ho
    obtain ⟨opened'', hlines, ho''⟩ := ih (n + 1) ho'
    exact ⟨opened'', by rw [Balance.lines, hline]; exact hlines, ho''⟩

theorem brackets_none {t : Text} {last : Option CodePoint} (h : Flow ⟨none, []⟩ t ⟨last, []⟩) :
    brackets t = none := by
  have hnone : ([] : List (Bracket × Position)).map (·.1) = [] := rfl
  obtain ⟨opened, hlines, ho⟩ := lines_ok h.lines 1 hnone
  have hopened : opened = [] := by simpa using ho
  have hstart : Balance.start = outside [] := rfl
  rw [brackets, hstart, hlines, hopened]
  rfl

theorem exists_flow_of_valid [StackRoom] {t : Text} (h : (validate t).isValid = true) :
    ∃ last, Flow ⟨none, []⟩ t ⟨last, []⟩ := by
  cases hb : t.isBlank with
  | true => exact exists_flow_of_isBlank hb ⟨none, []⟩
  | false =>
    obtain ⟨v, hv⟩ := Verdict.isValid_iff.mp h
    obtain ⟨c, hc⟩ := (Json.decode_eq_ok_iff.mp ((Verdict.validate_eq_valid hb).mp hv)).flow
    exact ⟨some c, hc⟩

/-- Of a valid text, a blank one included, no check that looks at the text alone finds fault. -/
theorem silent_of_valid [StackRoom] (t : Text) (h : (validate t).isValid = true) :
    unterminatedString t.lines = none ∧ missingComma t.lines = none ∧
      trailingComma t.lines = none ∧ brackets t = none := by
  obtain ⟨last, hflow⟩ := exists_flow_of_valid h
  exact ⟨unterminatedString_none hflow.lines.outside, missingComma_none hflow.lines,
    trailingComma_none hflow.lines, brackets_none hflow⟩

theorem silent_of_valid_array :
    (validate "[\n\"a,\",\ntrue\n]").isValid = true ∧
      unterminatedString (Text.lines "[\n\"a,\",\ntrue\n]") = none ∧
      missingComma (Text.lines "[\n\"a,\",\ntrue\n]") = none ∧
      trailingComma (Text.lines "[\n\"a,\",\ntrue\n]") = none ∧
      brackets "[\n\"a,\",\ntrue\n]" = none := by
  have hvalid : (validate "[\n\"a,\",\ntrue\n]").isValid = true := by cbv
  exact ⟨hvalid, silent_of_valid _ hvalid⟩

end Diagnosis

end JsonDesk
