import JsonDesk.Proofs.Edits
import JsonDesk.Proofs.Refusals

/-!
A closing quote that is left out.  The reader takes what follows for more of the string and stops at
the end of the line, and the line is the first one on which the quotes do not come in pairs.
-/

set_option autoImplicit false

namespace JsonDesk
open Grammar

namespace Json

/-- The faults of strings that do not end. -/
inductive Unended : Fault → Prop
  | control (left : Nat) : Unended (.misread .controlCharacter left)
  | endless (left : Nat) : Unended (.misread .unterminated left)

theorem string_unended {b r : Text}
    (hb : ∀ c ∈ b, c ≠ CodePoint.ofChar '"' ∧ c ≠ CodePoint.ofChar '\\')
    (hr : r = [] ∨ ∃ s, r = CodePoint.ofChar '\n' :: s) (start : Text)
    (h : (b ++ r).length < start.length) (done : Text) :
    ∃ e, string start (b ++ r) h done = .error e ∧ Unended e := by
  induction b generalizing done with
  | nil =>
    simp only [List.nil_append] at h ⊢
    rcases hr with rfl | ⟨s, rfl⟩
    · rw [string]
      exact ⟨_, rfl, .endless _⟩
    · rw [string]
      exact ⟨_, rfl, .control _⟩
  | cons c b ih =>
    obtain ⟨hquote, hback⟩ := hb c (by simp)
    simp only [List.cons_append] at h ⊢
    rw [string, if_neg hquote]
    by_cases hlow : c.val < 0x20
    · rw [if_pos hlow]
      exact ⟨_, rfl, .control _⟩
    · rw [if_neg hlow, if_neg hback]
      exact ih (fun d hd => hb d (by simp [hd])) _ _

theorem string_body_unended {w u b r : Text} (hbody : Body w u)
    (hb : ∀ c ∈ b, c ≠ CodePoint.ofChar '"' ∧ c ≠ CodePoint.ofChar '\\')
    (hr : r = [] ∨ ∃ s, r = CodePoint.ofChar '\n' :: s) (hne : b ++ r ≠ []) :
    ∃ e, string (CodePoint.ofChar '"' :: (w ++ (b ++ r))) (w ++ (b ++ r)) (Nat.lt_succ_self _) [] =
      .error e ∧ Unended e := by
  have hunended := string_unended hb hr
  generalize hx : b ++ r = x at hne hunended ⊢
  obtain ⟨c, s, rfl⟩ := List.exists_cons_of_ne_nil hne
  have hc : c ≠ CodePoint.ofChar '\\' := by
    cases b with
    | cons d b =>
      obtain ⟨rfl, -⟩ := List.cons.inj hx
      exact (hb d (by simp)).2
    | nil =>
      obtain rfl | ⟨r, rfl⟩ := hr
      · cases hx
      · obtain ⟨rfl, -⟩ := List.cons.inj hx
        decide
  have hlt : (w ++ c :: s).length < (CodePoint.ofChar '"' :: (w ++ c :: s)).length :=
    Nat.lt_succ_self _
  obtain ⟨h', heq⟩ := string_append hbody hc s [] hlt
  rw [heq]
  exact hunended _ h' _

theorem exists_body [StackRoom] {p w r : Text} {v : Json} (h : Document .strict maxDepth
    (p ++ CodePoint.ofChar '"' :: (w ++ CodePoint.ofChar '"' :: r)) v) (hp : Outside p)
    (hw : Quoted w) : LeadsTo .strict maxDepth p .string ∧ ∃ u, Body w u := by
  have hlead : LeadsTo .strict maxDepth p .string := by
    cases h.everywhere p _ _ rfl hp with
    | string hlead => exact hlead
    | other hc => exact absurd hc (by decide)
  refine ⟨hlead, ?_⟩
  have hdecode := decode_eq_ok_iff.mpr h
  -- a string that could not be read would be what the document is refused for
  cases hstring : string (CodePoint.ofChar '"' :: (w ++ CodePoint.ofChar '"' :: r))
      (w ++ CodePoint.ofChar '"' :: r) (Nat.lt_succ_self _) [] with
  | error e =>
    rw [decode_refused hlead (.string hstring)] at hdecode
    cases hdecode
  | ok k =>
    obtain ⟨w', hbody, heq⟩ := reads_string.mp ⟨k, hstring, rfl, rfl⟩
    rw [List.append_assoc] at heq
    obtain ⟨rfl, -⟩ := hw.unique hbody.quoted heq
    exact ⟨_, hbody⟩

end Json

/-! ### The message -/

namespace Text

theorem contains_of_prefix {t p : Text} (h : p <+: t) : t.contains p = true := by
  cases t with
  | nil => simp [contains, List.prefix_nil.mp h]
  | cons c t => simp [contains, startsWith, List.isPrefixOf_iff_prefix.mpr h]

theorem tellsUnterminated_append {w p : Text} (hw : w ∈ unterminatedPhrases) (hp : w <+: p.lower)
    (r : Text) : (p ++ r).tellsUnterminated = true := by
  have hlower : (p ++ r).lower = p.lower ++ r.lower := by simp [lower]
  rw [tellsUnterminated, List.any_eq_true]
  refine ⟨w, hw, contains_of_prefix ?_⟩
  rw [hlower]
  exact hp.trans (List.prefix_append _ _)

theorem append_further_ne_nil {y b : Text} {c : CodePoint} {after : List Text}
    (hend : after = [] → (y ++ c :: b).getLast? ≠ some c) : b ++ further after ≠ [] := by
  intro hnil
  obtain ⟨rfl, hafter⟩ := List.append_eq_nil_iff.mp hnil
  obtain ⟨rfl, -⟩ | ⟨s, hs⟩ := further_cases after
  · exact hend rfl List.getLast?_concat
  · rw [hs] at hafter
    cases hafter

end Text

theorem Json.Unended.tells {e : Fault} (h : Unended e) (t : Text) :
    (e.message t).tellsUnterminated = true := by
  cases h with
  | control left =>
    simp only [Fault.message, List.append_assoc]
    exact Text.tellsUnterminated_append (w := "invalid control character") (by decide) (by decide) _
  | endless left =>
    simp only [Fault.message, List.append_assoc]
    exact Text.tellsUnterminated_append (w := "unterminated") (by decide) (by decide) _

namespace Diagnosis

/-! ### The line -/

theorem unescapedQuotes_plain {b : Text} (hq : CodePoint.ofChar '"' ∉ b)
    (hb : CodePoint.ofChar '\\' ∉ b) (n : Nat) : Text.unescapedQuotes.go b false n = n := by
  induction b with
  | nil => rfl
  | cons c b ih =>
    simp only [List.mem_cons, not_or] at hq hb
    rw [Text.unescapedQuotes.go, if_neg (Ne.symm hb.1), if_neg (Ne.symm hq.1)]
    exact ih hq.2 hb.2

theorem unescapedQuotes_odd {y w b : Text} (hy : Outside y) (hw : Quoted w)
    (hq : CodePoint.ofChar '"' ∉ b) (hb : CodePoint.ofChar '\\' ∉ b) :
    (y ++ CodePoint.ofChar '"' :: (w ++ b)).unescapedQuotes % 2 = 1 := by
  obtain ⟨k, hk⟩ := exists_unescapedQuotes hy
  have hopen (n : Nat) : Text.unescapedQuotes.go (CodePoint.ofChar '"' :: (w ++ b)) false n =
      Text.unescapedQuotes.go (w ++ b) false (n + 1) := by
    simp [Text.unescapedQuotes.go]
  rw [Text.unescapedQuotes, hk, hopen, unescapedQuotes_quoted hw, unescapedQuotes_plain hq hb]
  omega

theorem unterminatedString_eq {before after : List Text} {l : Text}
    (hbefore : ∀ k ∈ before, Outside k) (hl : l.unescapedQuotes % 2 = 1) :
    unterminatedString (before ++ l :: after) =
      some ⟨.point ⟨before.length + 1, l.length⟩, .closeString⟩ := by
  have hgo (n : Nat) : unterminatedString.go n (before ++ l :: after) =
      some ⟨.point ⟨before.length + n, l.length⟩, .closeString⟩ := by
    induction before generalizing n with
    | nil => simp [unterminatedString.go, hl]
    | cons k before ih =>
      have heven := unescapedQuotes_even (hbefore k (by simp))
      rw [List.cons_append, unterminatedString.go, if_neg (by omega),
        ih fun j hj => hbefore j (by simp [hj])]
      simp only [List.length_cons, Nat.add_assoc, Nat.add_comm 1]
  exact hgo 1

end Diagnosis

/-- Where the last quote of a line of a valid text is taken away, and that quote is not the end of
the text, the text is refused, with the advice to close the string at the end of this line. -/
theorem Verdict.removed_quote_located [StackRoom] (t : Text) (h : (validate t).isValid = true)
    (i : Nat) (l : Text) (hline : t.lines[i]? = some l) (hquote : CodePoint.ofChar '"' ∈ l)
    (hend : i + 1 = t.lines.length → l.getLast? ≠ some (CodePoint.ofChar '"')) :
    ∃ message, validate (t.editLine i (Text.withoutLast '"')) =
      .invalid message ⟨.point ⟨i + 1, (l.withoutLast '"').length⟩, .closeString⟩ := by
  obtain ⟨before, after, hlines, rfl⟩ := Text.exists_lines_eq hline
  have houtside := outside_of_valid h
  rw [hlines] at houtside
  obtain ⟨y, w, b, rfl, hy, hw, hq, hb⟩ := (houtside l (by simp)).exists_last hquote
  have hbefore : ∀ k ∈ before, Outside k := fun k hk => houtside k (by simp [hk])
  have hp : Outside (Text.led '\n' before ++ y) := (outside_led hbefore).append hy
  -- the text as it was, and without the quote
  have htext : t = (Text.led '\n' before ++ y) ++
      CodePoint.ofChar '"' :: (w ++ CodePoint.ofChar '"' :: (b ++ Text.further after)) := by
    conv_lhs => rw [Text.eq_of_lines hlines]
    simp
  have hshort : Text.withoutLast '"'
      (y ++ CodePoint.ofChar '"' :: (w ++ CodePoint.ofChar '"' :: b)) =
        y ++ CodePoint.ofChar '"' :: (w ++ b) := by
    simpa using Text.withoutLast_append (y ++ CodePoint.ofChar '"' :: w) hq
  have hedit : t.editLine before.length (Text.withoutLast '"') = (Text.led '\n' before ++ y) ++
      CodePoint.ofChar '"' :: (w ++ (b ++ Text.further after)) := by
    rw [Text.editLine_eq hlines, hshort]
    simp
  have hblank : t.isBlank = false := Text.not_isBlank_of_mem (by rw [htext]; simp)
  obtain ⟨v, hdocument⟩ := Verdict.exists_document h hblank
  rw [htext] at hdocument
  obtain ⟨hlead, u, hbody⟩ := Json.exists_body hdocument hp hw
  have hplain : ∀ c ∈ b, c ≠ CodePoint.ofChar '"' ∧ c ≠ CodePoint.ofChar '\\' := fun c hc =>
    ⟨fun heq => hq (heq ▸ hc), fun heq => hb (heq ▸ hc)⟩
  have hne : b ++ Text.further after ≠ [] := by
    refine Text.append_further_ne_nil (y := y ++ CodePoint.ofChar '"' :: w)
      (c := CodePoint.ofChar '"') fun hafter => ?_
    have hlast := hend (by rw [hlines, hafter, List.length_append, List.length_singleton])
    simpa using hlast
  have hfurther := (Text.further_cases after).imp_left And.right
  obtain ⟨e, he, hunended⟩ := Json.string_body_unended hbody hplain hfurther hne
  have hdecode := Json.decode_refused hlead (.string he)
  rw [← hedit] at hdecode
  refine validate_refused (Text.not_isBlank_of_mem (by rw [hedit]; simp)) hdecode ?_
  refine diagnose_unterminated (hunended.tells _) ?_
  rw [Text.lines_editLine hlines fun c hc => Text.mem_of_mem_withoutLast hc, hshort]
  exact Diagnosis.unterminatedString_eq hbefore (Diagnosis.unescapedQuotes_odd hy hw hq hb)

theorem Verdict.removed_quote_located_array :
    (validate "[\n\"a\\\"\", \"b\",\nnull]").isValid = true ∧
      ∃ message, validate (Text.editLine "[\n\"a\\\"\", \"b\",\nnull]" 1 (Text.withoutLast '"')) =
        .invalid message ⟨.point ⟨2, 10⟩, .closeString⟩ := by
  have hvalid : (validate "[\n\"a\\\"\", \"b\",\nnull]").isValid = true := by cbv
  exact ⟨hvalid, removed_quote_located _ hvalid 1 "\"a\\\"\", \"b\"," (by decide) (by decide)
    (by decide)⟩

end JsonDesk
