import JsonDesk.Benchmark
import JsonDesk.Proofs.Edits
import JsonDesk.Proofs.Offsets
import JsonDesk.Proofs.Refusals
import JsonDesk.Proofs.Trimming

/-!
A comma that is left out before a line that starts with a string.  The reader misses it there, no
line before it looks as if it missed one, and its own line still ends like a value.
-/

set_option autoImplicit false

namespace JsonDesk
open Grammar

/-! ### The ends of a line -/

namespace Text

variable {t u w : Text} {c : CodePoint}

theorem exists_comma_line (hlength : 1 < t.strip.length) (hcomma : t.strip.endsWith "," = true) :
    ∃ a c z b, t = (a ++ c :: z) ++ CodePoint.ofChar ',' :: b ∧ (∀ d ∈ a, d.isBlank = true) ∧
      c.isBlank = false ∧ (∀ d ∈ b, d.isBlank = true) ∧ t.strip.head? = some c := by
  have hne : t.strip ≠ [] := by
    intro hnil
    rw [hnil] at hlength
    cases hlength
  obtain ⟨a, c, m, ha, hc, rfl, hstrip⟩ := exists_strip hne
  obtain ⟨b, hb, hsplit, -⟩ := exists_stripRight (c :: m)
  rw [hstrip] at hlength hcomma ⊢
  obtain ⟨x, hx⟩ := List.isSuffixOf_iff_suffix.mp hcomma
  rw [← hx] at hlength hsplit
  cases x with
  | nil => simp [ofString] at hlength
  | cons d z =>
    obtain ⟨rfl, hm⟩ := List.cons.inj hsplit
    exact ⟨a, c, z, b, by simp [hm, ofString], ha, hc, hb, head?_stripRight hc m⟩

theorem startsWith_quote : t.startsWith "\"" = true ↔ t.head? = some (CodePoint.ofChar '"') := by
  have hquote : ofString "\"" = [CodePoint.ofChar '"'] := rfl
  rw [startsWith, hquote, List.isPrefixOf_iff_prefix, List.head?_eq_some_iff]
  exact ⟨fun ⟨r, hr⟩ => ⟨r, hr.symm⟩, fun ⟨r, hr⟩ => ⟨r, hr.symm⟩⟩

theorem exists_quote (h : t.strip.startsWith "\"" = true) :
    ∃ d z, (∀ c ∈ d, c.isBlank = true) ∧ t = d ++ CodePoint.ofChar '"' :: z := by
  rw [startsWith_quote] at h
  have hne : t.strip ≠ [] := by
    intro hnil
    rw [hnil] at h
    cases h
  obtain ⟨d, c, z, hd, hc, rfl, hstrip⟩ := exists_strip hne
  rw [hstrip, head?_stripRight hc] at h
  cases h
  exact ⟨d, z, hd, rfl⟩

/-! ### Ends of values -/

theorem endsWith_of_append {e : Text} (h : (u ++ w).endsWith e = true)
    (hu : ∀ c ∈ u.getLast?, c ∉ e) : w.endsWith e = true := by
  rw [endsWith, List.isSuffixOf_iff_suffix] at h ⊢
  rcases List.suffix_or_suffix_of_suffix h (List.suffix_append u w) with he | ⟨x, rfl⟩
  · exact he
  · obtain ⟨k, hk⟩ := h
    rw [← List.append_assoc, List.append_cancel_right_eq] at hk
    subst hk
    cases x using List.reverseRecOn with
    | nil => simp
    | append_singleton x c => exact absurd (by simp) (hu c (by simp [← List.append_assoc]))

theorem endsLikeValue_imp (hlast : t.getLast? = u.getLast?) (hends : ∀ e : Text,
    (∀ c ∈ e, c.isBlank = false) → t.endsWith e = true → u.endsWith e = true)
    (h : t.endsLikeValue = true) : u.endsLikeValue = true := by
  have hends' {es : List Text} (hes : ∀ e ∈ es, ∀ c ∈ e, c.isBlank = false) :
      (∃ e ∈ es, t.endsWith e = true) → ∃ e ∈ es, u.endsWith e = true :=
    fun ⟨e, he, hte⟩ => ⟨e, he, hends e (hes e he) hte⟩
  simp only [endsLikeValue, endsWithAny, Bool.or_eq_true, List.any_eq_true (l := [_, _, _]), hlast]
    at h ⊢
  exact h.imp (Or.imp_left (hends' (by decide))) (hends' (by decide))

theorem endsLikeValue_of_append (h : (u ++ w).endsLikeValue = true) (hw : w ≠ [])
    (hu : ∀ c ∈ u.getLast?, c.isBlank = true) : w.endsLikeValue = true := by
  refine endsLikeValue_imp (List.getLast?_append_of_ne_nil u hw) (fun e he hue => ?_) h
  refine endsWith_of_append hue fun c hc hce => ?_
  have hblank := hu c hc
  rw [he c hce] at hblank
  cases hblank

theorem endsLikeValue_append (u : Text) (hw : w ≠ []) (h : w.endsLikeValue = true) :
    (u ++ w).endsLikeValue = true := by
  refine endsLikeValue_imp (List.getLast?_append_of_ne_nil u hw).symm (fun e _ hwe => ?_) h
  rw [endsWith, List.isSuffixOf_iff_suffix] at hwe ⊢
  exact hwe.trans (List.suffix_append u w)

end Text

namespace Grammar
open Text (endsLikeValue_append)

variable {how : Reading} {n : Nat} {p t w g r : Text} {v : Json} {c : CodePoint}

theorem Digits.exists_last (h : Digits t) : ∃ u c, t = u ++ [c] ∧ c.isDigit = true :=
  ⟨_, _, (List.dropLast_append_getLast h.1).symm, h.2 _ (List.getLast_mem h.1)⟩

theorem Whole.exists_last (h : Whole t) : ∃ u c, t = u ++ [c] ∧ c.isDigit = true := by
  cases h with
  | zero => exact ⟨[], _, rfl, by decide⟩
  | digits _ hd => exact hd.exists_last

theorem Number.exists_last {m : Numeral} (h : Number t m) :
    ∃ u c, t = u ++ [c] ∧ c.isDigit = true := by
  have behind (x : Text) {t : Text} (h : ∃ u c, t = u ++ [c] ∧ c.isDigit = true) :
      ∃ u c, x ++ t = u ++ [c] ∧ c.isDigit = true := by
    obtain ⟨u, c, rfl, hc⟩ := h
    exact ⟨x ++ u, c, by simp, hc⟩
  obtain @⟨s, w, f, x, _, _, _, _, hw, hf, hx⟩ := h
  cases hx with
  | none =>
    rw [List.append_nil]
    cases hf with
    | none =>
      rw [List.append_nil]
      exact behind s hw.exists_last
    | some hd => exact behind _ (behind _ hd.exists_last)
  | unsigned _ hd => exact behind _ (behind [_] hd.exists_last)
  | plus _ hd => exact behind _ (behind [_] (behind "+" hd.exists_last))
  | minus _ hd => exact behind _ (behind [_] (behind "-" hd.exists_last))

theorem Value.exists_end (h : Value .strict n w v) : ∃ u e, w = u ++ e ∧ e ≠ [] ∧
    (∀ c ∈ e, c.isBlank = false) ∧ Text.endsLikeValue e = true := by
  cases h with
  | null => exact ⟨[], _, rfl, by decide⟩
  | yes => exact ⟨[], _, rfl, by decide⟩
  | no => exact ⟨[], _, rfl, by decide⟩
  | constant hc => cases hc
  | number hm =>
    obtain ⟨u, c, rfl, hc⟩ := hm.exists_last
    have hdecimal : c.isDecimal = true := by
      rw [CodePoint.isDecimal, CodePoint.decimal?_of_isDigit hc]
      rfl
    have hblank : c.isBlank = false := (Atomic.plain (.inl hc)).1
    exact ⟨u, [c], rfl, by simp, by simpa using hblank, by simp [Text.endsLikeValue, hdecimal]⟩
  | string => exact ⟨_, _, rfl, by decide⟩
  | emptyArray => exact ⟨_, _, rfl, by decide⟩
  | array => exact ⟨_, _, rfl, by decide⟩
  | emptyObject => exact ⟨_, _, rfl, by decide⟩
  | object => exact ⟨_, _, rfl, by decide⟩

theorem LeadsTo.exists_end (h : LeadsTo .strict n p .comma) : ∃ q g, p = q ++ g ∧ q ≠ [] ∧ Gap g ∧
    (∀ c ∈ q.getLast?, c.isBlank = false) ∧ Text.endsLikeValue q = true := by
  obtain ⟨q, m, w, v, g, rfl, hw, hg⟩ := h.exists_value
  obtain ⟨u, e, rfl, hne, hblank, hends⟩ := hw.exists_end
  refine ⟨q ++ (u ++ e), g, rfl, by simp [hne], hg, fun c hc => ?_, ?_⟩
  · rw [← List.append_assoc, List.getLast?_append_of_ne_nil _ hne] at hc
    exact hblank c (List.mem_of_getLast? hc)
  · rw [← List.append_assoc]
    exact endsLikeValue_append _ hne hends

theorem Fits.isLayout (h : Fits how n p c) (hc : c.isBlank = true) : Json.isLayout c = true := by
  cases h with
  | string => cases hc
  | comma => cases hc
  | other h =>
    rcases h with h | h | h
    · exact h
    · rw [h.plain.1] at hc
      cases hc
    · have all : ∀ d ∈ Text.ofString "[]\x7b\x7d:", d.isBlank = false := by decide
      rw [all c h] at hc
      cases hc

theorem Document.gap_of_isBlank (h : Document how n (p ++ g ++ r) v) (hp : Outside p)
    (hg : ∀ c ∈ g, c.isBlank = true) : Gap g := by
  intro c hc
  obtain ⟨x, y, rfl⟩ := List.append_of_mem hc
  have hx : Outside (p ++ x) := hp.append (outside_of_isBlank fun d hd => hg d (by simp [hd]))
  have hfits := h.everywhere (p ++ x) c (y ++ r) (by simp) hx
  exact isLayout_iff.mp (hfits.isLayout (hg c hc))

theorem LeadsTo.getLast?_ne (h : LeadsTo .strict n p .comma) :
    p.getLast? ≠ some (CodePoint.ofChar ',') := by
  obtain ⟨q, g, rfl, hne, hg, -, hends⟩ := h.exists_end
  intro hlast
  by_cases hgap : g = []
  · rw [hgap, List.append_nil] at hlast
    exact Diagnosis.not_ready_of_endsLikeValue hends (hlast ▸ ready_comma)
  · rw [List.getLast?_append_of_ne_nil _ hgap] at hlast
    exact absurd (hg _ (List.mem_of_getLast? hlast)) (by decide)

theorem LeadsTo.endsLikeValue_line {before : List Text} {a z b : Text}
    (h : LeadsTo .strict n (Text.led '\n' before ++ (a ++ c :: z)) .comma)
    (ha : ∀ d ∈ a, d.isBlank = true) (hc : c.isBlank = false) (hb : ∀ d ∈ b, d.isBlank = true) :
    Text.endsLikeValue (Text.stripRight (c :: (z ++ b))) = true := by
  obtain ⟨q, g, hq, -, hg, hlast, hends⟩ := h.exists_end
  obtain ⟨b', hb', hsplit, hlast'⟩ := Text.exists_stripRight (c :: (z ++ b))
  have hne := Text.stripRight_ne_nil hc (z ++ b)
  generalize Text.stripRight (c :: (z ++ b)) = s at hsplit hlast' hne ⊢
  -- both are the text up to the comma without the white space at its end
  have htrimmed : q = (Text.led '\n' before ++ a) ++ s := by
    have hblank : ∀ d ∈ g ++ b, d.isBlank = true := by
      intro d hd
      rcases List.mem_append.mp hd with hd | hd
      · rcases hg d hd with rfl | rfl | rfl | rfl <;> decide
      · exact hb d hd
    have hshape : q ++ (g ++ b) = (Text.led '\n' before ++ a) ++ s ++ b' := by
      rw [← List.append_assoc, ← hq, List.append_assoc _ s, ← hsplit]
      simp
    rw [← Text.stripRight_append hblank hlast, hshape]
    refine Text.stripRight_append hb' ?_
    rwa [List.getLast?_append_of_ne_nil _ hne]
  rw [htrimmed] at hends
  refine Text.endsLikeValue_of_append hends hne fun d hd => ?_
  rw [List.getLast?_append, Option.mem_def, Option.or_eq_some_iff] at hd
  rcases hd with hd | ⟨-, hd⟩
  · exact ha d (List.mem_of_getLast? hd)
  · rw [Text.getLast_led hd]
    decide

end Grammar

namespace Json

/-- The reader misses the comma that was left out before a string. -/
theorem comma_refused [StackRoom] {p g r : Text} {v : Json} (h : Document .strict maxDepth
    (p ++ CodePoint.ofChar ',' :: (g ++ CodePoint.ofChar '"' :: r)) v) (hp : Outside p)
    (hg : ∀ c ∈ g, c.isBlank = true) : LeadsTo .strict maxDepth p .comma ∧ ∀ g' : Text, g' ⊆ g →
      decode .strict (p ++ (g' ++ CodePoint.ofChar '"' :: r)) =
        .error (.misread .comma (r.length + 1)) := by
  have hlead : LeadsTo .strict maxDepth p .comma := by
    cases h.everywhere p _ _ rfl hp with
    | comma hlead => exact hlead
    | other hc => exact absurd hc (by decide)
  have hcomma : Outside (p ++ [CodePoint.ofChar ',']) :=
    hp.append (.plain (by decide) (by decide) .nil)
  have hshape : p ++ CodePoint.ofChar ',' :: (g ++ CodePoint.ofChar '"' :: r) =
      (p ++ [CodePoint.ofChar ',']) ++ g ++ CodePoint.ofChar '"' :: r := by simp
  rw [hshape] at h
  have hgap : Gap g := h.gap_of_isBlank hcomma hg
  refine ⟨hlead, fun g' hsub => decode_refused hlead (.comma (c := '"') (s := r) ?_ ?_ (by decide))⟩
  · exact Gap.ends (fun c hc => hgap c (hsub hc)) (ends_cons (by decide) (by decide) r)
  · exact skipLayout_opening (fun c hc => hgap c (hsub hc)) (by decide) r

end Json

/-! ### The check -/

namespace Diagnosis
open Text

variable {judge : Nat → Text → Text → Option Diagnosis} {before after ls : List Text}
  {k l l' next : Text} {d : Diagnosis} {n : Nat}

theorem firstPair_cons_eq_none_iff : firstPair judge n (k :: l :: ls) = none ↔
    judge n k l = none ∧ firstPair judge (n + 1) (l :: ls) = none := by
  rw [firstPair]
  cases judge n k l <;> simp

theorem firstPair_cons_of_none (h : judge n k l = none) (ls : List Text) :
    firstPair judge n (k :: l :: ls) = firstPair judge (n + 1) (l :: ls) := by
  rw [firstPair, h]
  rfl

theorem firstPair_changed (hnone : firstPair judge n (before ++ l :: next :: after) = none)
    (hcongr : ∀ m k, judge m k l' = judge m k l)
    (hd : judge (n + before.length) l' next = some d) :
    firstPair judge n (before ++ l' :: next :: after) = some d := by
  induction before generalizing n with
  | nil =>
    rw [List.length_nil, Nat.add_zero] at hd
    rw [List.nil_append, firstPair, hd]
    rfl
  | cons k before ih =>
    have hlength : n + (k :: before).length = n + 1 + before.length := by
      rw [List.length_cons]
      omega
    rw [hlength] at hd
    cases before with
    | nil =>
      obtain ⟨hfirst, hrest⟩ := firstPair_cons_eq_none_iff.mp hnone
      rw [List.cons_append, List.nil_append, firstPair_cons_of_none ((hcongr n k).trans hfirst)]
      exact ih hrest hd
    | cons j before =>
      obtain ⟨hfirst, hrest⟩ := firstPair_cons_eq_none_iff.mp hnone
      rw [List.cons_append, List.cons_append, firstPair_cons_of_none hfirst]
      exact ih hrest hd

theorem missingComma_changed (hnone : missingComma (before ++ l :: next :: after) = none)
    (hhead : l'.strip.head? = l.strip.head?)
    (hslash : l'.strip.head? ≠ some (CodePoint.ofChar '/'))
    (hends : l'.strip.endsLikeValue = true) (hnext : next.strip.startsWith "\"" = true) :
    missingComma (before ++ l' :: next :: after) =
      some ⟨.point ⟨before.length + 1, l'.length⟩, .addComma (before.length + 1)⟩ := by
  refine firstPair_changed hnone (fun m k => ?_) ?_
  · have hquote : l'.strip.startsWith "\"" = l.strip.startsWith "\"" := by
      rw [Bool.eq_iff_iff, startsWith_quote, startsWith_quote, hhead]
    simp only [hquote]
  · have hempty : l'.strip ≠ [] := by
      intro hnil
      rw [hnil] at hends
      cases hends
    have hcomment : ¬ l'.strip.startsWith "//" = true := by
      intro hstart
      obtain ⟨r, hr⟩ := List.isPrefixOf_iff_prefix.mp hstart
      exact hslash (hr ▸ rfl)
    have hopen : ¬ l'.strip.endsWithAny [",", "\x7b", "["] = true := by
      intro hany
      obtain ⟨e, he, hend⟩ := List.any_eq_true.mp hany
      have all : ∀ e ∈ ([(",": Text), "\x7b", "["] : List Text),
          ∃ c ∈ ofString "[\x7b,:", e.getLast? = some c := by decide
      obtain ⟨c, hc, hlast⟩ := all e he
      refine not_ready_of_endsLikeValue hends ?_
      rw [getLast_of_endsWith hlast hend]
      rintro d ⟨⟩
      exact hc
    rw [Nat.add_comm 1]
    simp only [hempty, hcomment, hopen, hends, hnext, Bool.false_eq_true, or_self, if_false,
      and_self, if_true]

end Diagnosis

/-! ### The text -/

namespace Verdict
open Text

variable {t l next y b : Text} {before after : List Text}

theorem exists_document_of_comma [StackRoom] (h : (validate t).isValid = true)
    (hlines : t.lines = before ++ (y ++ CodePoint.ofChar ',' :: b) :: next :: after)
    (hb : ∀ c ∈ b, c.isBlank = true) (hnext : next.strip.startsWith "\"" = true) :
    Outside y ∧ ∃ d z v, (∀ c ∈ d, c.isBlank = true) ∧ next = d ++ CodePoint.ofChar '"' :: z ∧
      Document .strict maxDepth ((led '\n' before ++ y) ++ CodePoint.ofChar ',' ::
        ((b ++ CodePoint.ofChar '\n' :: d) ++ CodePoint.ofChar '"' :: (z ++ further after))) v := by
  obtain ⟨d, z, hd, rfl⟩ := exists_quote hnext
  have htext : t = (led '\n' before ++ y) ++ CodePoint.ofChar ',' ::
      ((b ++ CodePoint.ofChar '\n' :: d) ++ CodePoint.ofChar '"' :: (z ++ further after)) := by
    conv_lhs => rw [eq_of_lines hlines]
    simp [further, ofString]
  obtain ⟨v, hdocument⟩ := exists_document h (not_isBlank_of_mem (by rw [htext]; simp))
  rw [htext] at hdocument
  have hquote : CodePoint.ofChar '"' ∉ CodePoint.ofChar ',' :: b := by
    intro hmem
    rcases List.mem_cons.mp hmem with heq | hmem
    · exact absurd heq (by decide)
    · exact (ne_of_isBlank (hb _ hmem)).1 rfl
  have hline := outside_of_valid h (y ++ CodePoint.ofChar ',' :: b) (by simp [hlines])
  exact ⟨hline.of_append hquote, d, z, v, hd, rfl, hdocument⟩

theorem comma_line_refused [StackRoom] (h : (validate t).isValid = true)
    (hlines : t.lines = before ++ (y ++ CodePoint.ofChar ',' :: b) :: next :: after)
    (hb : ∀ c ∈ b, c.isBlank = true) (hnext : next.strip.startsWith "\"" = true) :
    LeadsTo .strict maxDepth (led '\n' before ++ y) .comma ∧ ∀ b' : Text, b' ⊆ b →
      ∃ left, Json.decode .strict (led '\n' before ++ (y ++ b' ++ further (next :: after))) =
        .error (.misread .comma left) := by
  obtain ⟨hy, d, z, v, hd, rfl, hdocument⟩ := exists_document_of_comma h hlines hb hnext
  have hp : Outside (led '\n' before ++ y) :=
    (outside_led fun k hk => outside_of_valid h k (by simp [hlines, hk])).append hy
  have hblank : ∀ c ∈ b ++ CodePoint.ofChar '\n' :: d, c.isBlank = true := by
    intro c hc
    simp only [List.mem_append, List.mem_cons] at hc
    rcases hc with hc | rfl | hc
    · exact hb c hc
    · decide
    · exact hd c hc
  obtain ⟨hlead, hrefused⟩ := Json.comma_refused hdocument hp hblank
  refine ⟨hlead, fun b' hsub => ?_⟩
  have hshape : led '\n' before ++
      (y ++ b' ++ further ((d ++ CodePoint.ofChar '"' :: z) :: after)) = (led '\n' before ++ y) ++
        ((b' ++ CodePoint.ofChar '\n' :: d) ++ CodePoint.ofChar '"' :: (z ++ further after)) := by
    simp [further, ofString]
  rw [hshape]
  exact ⟨_, hrefused _ (List.append_subset.mpr
    ⟨List.Subset.trans hsub (List.subset_append_left _ _), List.subset_append_right _ _⟩)⟩

/-- A text that misses a comma is always diagnosed with a line. -/
theorem exists_line_of_comma [StackRoom] {left : Nat} (hblank : t.isBlank = false)
    (hdecode : Json.decode .strict t = .error (.misread .comma left))
    (hlength : t.length + 1 < 10 ^ maxDigits) :
    ∃ message d n, validate t = .invalid message d ∧ d.place.line? = some n := by
  have hdiagnosis : ∃ d n, diagnose t ((Fault.misread .comma left).message t) = .ok d ∧
      d.place.line? = some n := by
    rw [diagnose]
    split
    · next d hd =>
      obtain ⟨check, -, hrun⟩ := List.exists_of_findSome?_eq_some hd
      obtain ⟨n, hn⟩ := Check.exists_line hrun
      exact ⟨d, n, rfl, hn⟩
    · exact ⟨_, _, Fault.ofMessage_misread .comma left hlength, rfl⟩
  obtain ⟨d, n, hd, hn⟩ := hdiagnosis
  obtain ⟨message, hmessage⟩ := validate_refused hblank hdecode hd
  exact ⟨message, d, n, hmessage, hn⟩

/-- The line that lost its comma is the first one to look as if it missed one. -/
theorem comma_line_located [StackRoom] (h : (validate t).isValid = true)
    (hlines : t.lines = before ++ l :: next :: after) (hlength : 1 < l.strip.length)
    (hcomma : l.strip.endsWith "," = true) (hnext : next.strip.startsWith "\"" = true) :
    ∃ message, validate (t.editLine before.length (withoutLast ',')) = .invalid message
      ⟨.point ⟨before.length + 1, (l.withoutLast ',').length⟩, .addComma (before.length + 1)⟩ := by
  obtain ⟨a, c, z, b, rfl, ha, hc, hb, hhead⟩ := exists_comma_line hlength hcomma
  obtain ⟨hy, d, z', v, -, hquote, hdocument⟩ := exists_document_of_comma h hlines hb hnext
  obtain ⟨hlead, hrefused⟩ := comma_line_refused h hlines hb hnext
  obtain ⟨left, hdecode⟩ := hrefused b (List.Subset.refl b)
  have houtside := outside_of_valid h
  obtain ⟨last, hflow⟩ := Diagnosis.exists_flow_of_valid h
  have hnone := Diagnosis.missingComma_none hflow.lines
  have hcommaless : CodePoint.ofChar ',' ∉ b := fun hmem => by
    have hblank := hb _ hmem
    cases hblank
  have hshort := withoutLast_append (a ++ c :: z) hcommaless
  have hedit := editLine_eq hlines (withoutLast ',')
  have hlines' := lines_editLine hlines (f := withoutLast ',') fun d hd => mem_of_mem_withoutLast hd
  rw [hlines] at houtside hnone
  rw [hshort] at hedit hlines' ⊢
  rw [← hedit] at hdecode
  refine validate_refused (not_isBlank_of_mem ?_) hdecode (diagnose_missingComma ?_ ?_)
  · rw [hedit, hquote]
    simp [further]
  · rw [hlines']
    refine Diagnosis.unterminatedString_none fun k hk => ?_
    simp only [List.mem_append, List.mem_cons] at hk houtside
    rcases hk with hk | rfl | hk
    · exact houtside k (.inl hk)
    · exact hy.append (outside_of_isBlank hb)
    · exact houtside k (.inr (.inr hk))
  · have hstrip : strip ((a ++ c :: z) ++ b) = stripRight (c :: (z ++ b)) := by
      simpa using strip_append ha hc (z ++ b)
    have hfits := hdocument.everywhere (led '\n' before ++ a) c _ (by simp; rfl)
      ((outside_led fun k hk => houtside k (by simp [hk])).append (outside_of_isBlank ha))
    have hslash : c ≠ CodePoint.ofChar '/' := by
      rintro rfl
      cases hfits with
      | other hother => exact absurd hother (by decide)
    rw [hlines']
    refine Diagnosis.missingComma_changed hnone ?_ ?_ ?_ hnext
    · rw [hstrip, head?_stripRight hc, hhead]
    · rw [hstrip, head?_stripRight hc]
      simpa using hslash
    · rw [hstrip]
      exact hlead.endsLikeValue_line ha hc hb

theorem exists_of_mem_breakable {ls : List Text} {m n : Nat} (h : n ∈ Benchmark.breakable.go m ls) :
    ∃ before l next after, ls = before ++ l :: next :: after ∧ m + before.length = n ∧
      l.stripRight.endsWith "," = true ∧ next.strip.startsWith "\"" = true := by
  induction ls generalizing m with
  | nil => simp [Benchmark.breakable.go] at h
  | cons k ls ih =>
    cases ls with
    | nil => simp [Benchmark.breakable.go] at h
    | cons j rest =>
      have later (hrest : n ∈ Benchmark.breakable.go (m + 1) (j :: rest)) :
          ∃ before l next after, k :: j :: rest = before ++ l :: next :: after ∧
            m + before.length = n ∧ l.stripRight.endsWith "," = true ∧
              next.strip.startsWith "\"" = true := by
        obtain ⟨before, l, next, after, heq, hn, hl⟩ := ih hrest
        exact ⟨k :: before, l, next, after, by rw [heq]; rfl, by simp; omega, hl⟩
      rw [Benchmark.breakable.go] at h
      split at h
      · next hkj =>
        rcases List.mem_cons.mp h with rfl | hrest
        · exact ⟨[], k, j, rest, rfl, rfl, hkj⟩
        · exact later hrest
      · exact later h

theorem broken_refused [StackRoom] {u : Text} (h : (validate t).isValid = true)
    (hbroken : Benchmark.breakComma t = .ok u) : u.length ≤ t.length ∧ u.isBlank = false ∧
      ∃ left, Json.decode .strict u = .error (.misread .comma left) := by
  rw [Benchmark.breakComma] at hbroken
  split at hbroken
  · cases hbroken
  · next target htarget =>
    obtain ⟨before, l, next, after, hlines, hlength, hcomma, hnext⟩ :=
      exists_of_mem_breakable (List.mem_of_getElem? htarget)
    obtain ⟨b, hb, hsplit, -⟩ := exists_stripRight l
    obtain ⟨y, hy⟩ := List.isSuffixOf_iff_suffix.mp hcomma
    have hl : l = y ++ CodePoint.ofChar ',' :: b := by
      rw [← hy] at hsplit
      simpa [ofString] using hsplit
    obtain ⟨hlead, hrefused⟩ := comma_line_refused h (hl ▸ hlines) hb hnext
    have hbare : dropRightWhile (· = CodePoint.ofChar ',') l.stripRight = y := by
      rw [← hy]
      refine dropRightWhile_append (by decide) fun c hc => decide_eq_false ?_
      rintro rfl
      refine hlead.getLast?_ne ?_
      rw [List.getLast?_append, Option.mem_def.mp hc]
      rfl
    have hedit := editLine_eq hlines fun l => l.stripRight.dropRightWhile (· = CodePoint.ofChar ',')
    rw [Nat.zero_add] at hlength
    rw [hbare, hlength] at hedit
    obtain rfl : t.editLine target _ = u := Except.ok.inj hbroken
    obtain ⟨d, z, -, hquote⟩ := exists_quote hnext
    rw [hedit]
    refine ⟨?_, not_isBlank_of_mem ?_, ?_⟩
    · conv_rhs => rw [eq_of_lines hlines, hl]
      simp
      omega
    · rw [hquote]
      simp [further]
    · simpa using hrefused [] (List.nil_subset b)

/-- Where the comma at the end of a line of a valid text is taken away, something else is on the
line and the next line starts with a quote, the text is refused, with the advice to put the comma at
the end of this line.  The broken document that the benchmark makes of a valid text is always diagnosed
with a line, the comma having stood on a line of its own or not, unless the number of that line has
too many digits to be converted, for which the text would have to be longer than any that a machine
holds. -/
theorem removed_comma_located [StackRoom] (t : Text) (h : (validate t).isValid = true) :
    (∀ i l next, t.lines[i]? = some l → t.lines[i + 1]? = some next → 1 < l.strip.length →
      l.strip.endsWith "," = true → next.strip.startsWith "\"" = true →
        ∃ message, validate (t.editLine i (withoutLast ',')) =
          .invalid message ⟨.point ⟨i + 1, (l.withoutLast ',').length⟩, .addComma (i + 1)⟩) ∧
      ∀ u, Benchmark.breakComma t = .ok u → t.length + 1 < 10 ^ maxDigits →
        ∃ message d n, validate u = .invalid message d ∧ d.place.line? = some n := by
  constructor
  · intro i l next hline hline' hlength hcomma hnext
    obtain ⟨before, after, hlines, rfl⟩ := exists_lines_eq hline
    rw [hlines, List.getElem?_append_right (Nat.le_succ _)] at hline'
    cases after with
    | nil => simp at hline'
    | cons k after =>
      obtain rfl : k = next := by simpa using hline'
      exact comma_line_located h hlines hlength hcomma hnext
  · intro u hbroken hlength
    obtain ⟨hshorter, hblank, left, hdecode⟩ := broken_refused h hbroken
    exact exists_line_of_comma hblank hdecode (by omega)

theorem removed_comma_located_array :
    (validate "[\"a\",\n\"b\"\n,\n\"c\",\n\"d\"]").isValid = true ∧
      (∃ message, validate (editLine "[\"a\",\n\"b\"\n,\n\"c\",\n\"d\"]" 3 (withoutLast ',')) =
        .invalid message ⟨.point ⟨4, 3⟩, .addComma 4⟩) ∧
      ∃ message d n, validate "[\"a\",\n\"b\"\n\n\"c\",\n\"d\"]" = .invalid message d ∧
        d.place.line? = some n := by
  have hvalid : (validate "[\"a\",\n\"b\"\n,\n\"c\",\n\"d\"]").isValid = true := by cbv
  have hbroken : Benchmark.breakComma "[\"a\",\n\"b\"\n,\n\"c\",\n\"d\"]" =
      .ok "[\"a\",\n\"b\"\n\n\"c\",\n\"d\"]" := by rfl
  have hlength : List.length (ofString "[\"a\",\n\"b\"\n,\n\"c\",\n\"d\"]") + 1 < 10 ^ maxDigits :=
    Nat.lt_of_lt_of_le (by decide : _ < 10 ^ 2) (Nat.pow_le_pow_right (by decide) (by decide))
  obtain ⟨hcomma, hbreak⟩ := removed_comma_located _ hvalid
  exact ⟨hvalid, hcomma 3 "\"c\"," "\"d\"]" (by decide) (by decide) (by decide) (by decide)
    (by decide), hbreak _ hbroken hlength⟩

end Verdict

end JsonDesk
