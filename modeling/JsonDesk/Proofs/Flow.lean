import JsonDesk.Diagnosis
import JsonDesk.Text.Blank
import JsonDesk.Proofs.Numerals
import JsonDesk.Proofs.Tokens

/-!
A document from left to right: which brackets are open at a place, which code point came last that
was no white space, and what may come after it.  The derivation of a document is forgotten; what is
kept can be cut at any line feed, because no line feed stands inside a string.
-/

set_option autoImplicit false

namespace JsonDesk.Grammar

/-- What is known at a place outside strings: the last code point that is no white space, and what
is open, the innermost first. -/
structure Spot where
  last : Option CodePoint
  opened : List Bracket

/-- A string or another value may come next. -/
def Ready (last : Option CodePoint) : Prop := ∀ c ∈ last, c ∈ Text.ofString "[\x7b,:"

/-- Code points that are no white space and have no part in strings and brackets. -/
def Plain (c : CodePoint) : Prop := c.isBlank = false ∧ c ∉ Text.ofString "\"\\[]\x7b\x7d"

instance (c : CodePoint) : Decidable (Plain c) := inferInstanceAs (Decidable (_ ∧ _))

theorem Plain.ne {c : CodePoint} {a : Char} (h : Plain c) (ha : ¬ Plain (CodePoint.ofChar a)) :
    c ≠ CodePoint.ofChar a := by
  rintro rfl
  exact ha h

inductive Flow : Spot → Text → Spot → Prop
  | done {s : Spot} : Flow s [] s
  | blank {s s' : Spot} {c : CodePoint} {t : Text} :
    c.isBlank = true → Flow s t s' → Flow s (c :: t) s'
  | plain {s s' : Spot} {c : CodePoint} {t : Text} :
    Plain c → Flow ⟨some c, s.opened⟩ t s' → Flow s (c :: t) s'
  | string {s s' : Spot} {w t : Text} :
    Ready s.last → Quoted w → Flow ⟨some '"', s.opened⟩ t s' → Flow s ("\"" ++ w ++ "\"" ++ t) s'
  | opener {s s' : Spot} {t : Text} (b : Bracket) :
    Flow ⟨some b.opener, b :: s.opened⟩ t s' → Flow s (b.opener :: t) s'
  | closer {last : Option CodePoint} {opened : List Bracket} {s' : Spot} {t : Text} (b : Bracket) :
    last ≠ some (CodePoint.ofChar ',') → Flow ⟨some b.closer, opened⟩ t s' →
      Flow ⟨last, b :: opened⟩ (b.closer :: t) s'

theorem Flow.append {s s' s'' : Spot} {t u : Text} (h : Flow s t s') (h' : Flow s' u s'') :
    Flow s (t ++ u) s'' := by
  induction h with
  | done => exact h'
  | blank hc _ ih => exact .blank hc (ih h')
  | plain hc _ ih => exact .plain hc (ih h')
  | @string s s' w t hready hw _ ih =>
    rw [List.append_assoc]
    exact .string hready hw (ih h')
  | opener b _ ih => exact .opener b (ih h')
  | closer b hlast _ ih => exact .closer b hlast (ih h')

theorem Gap.flow {g : Text} (hg : Gap g) (s : Spot) : Flow s g s := by
  induction g with
  | nil => exact .done
  | cons c g ih =>
    refine .blank ?_ (ih fun d hd => hg d (by simp [hd]))
    rcases hg c (by simp) with rfl | rfl | rfl | rfl <;> decide

theorem Atomic.plain {c : CodePoint} (h : Atomic c) : Plain c := by
  rcases h with h | h
  · have := CodePoint.isDigit_iff.mp h
    refine ⟨by simp [CodePoint.isBlank]; omega, ?_⟩
    simp [Text.ofString, CodePoint.ne_of_isDigit h]
  · have all : ∀ d ∈ Text.ofString "+-.EINaefilnrstuy", Plain d := by decide
    exact all c h

theorem string_append_eq (w t : Text) : ("\"" ++ w ++ "\"" ++ t : Text) =
    CodePoint.ofChar '"' :: (w ++ CodePoint.ofChar '"' :: t) := by simp [Text.ofString]

/-! ### Documents flow -/

/-- Wherever a value may stand the text may, and a comma is not the last of it. -/
def Fluent (t : Text) : Prop :=
  ∀ s : Spot, Ready s.last → ∃ c, c ≠ CodePoint.ofChar ',' ∧ Flow s t ⟨some c, s.opened⟩

theorem fluent_atomic {t : Text} (hne : t ≠ []) (h : ∀ c ∈ t, Atomic c) : Fluent t := by
  rintro s -
  induction t generalizing s with
  | nil => exact absurd rfl hne
  | cons c t ih =>
    have hc := h c (by simp)
    by_cases ht : t = []
    · subst ht
      exact ⟨c, hc.ne (by decide), .plain hc.plain .done⟩
    · obtain ⟨d, hd, hflow⟩ := ih ht (fun d hd => h d (by simp [hd])) ⟨some c, s.opened⟩
      exact ⟨d, hd, .plain hc.plain hflow⟩

theorem fluent_string {w : Text} (h : Quoted w) : Fluent ("\"" ++ w ++ "\"") := by
  intro s hs
  refine ⟨'"', by decide, ?_⟩
  rw [← List.append_nil ("\"" ++ w ++ "\"" : Text)]
  exact .string hs h .done

theorem Fluent.between {t g g' : Text} (h : Fluent t) (hg : Gap g) (hg' : Gap g') :
    Fluent (g ++ t ++ g') := by
  intro s hs
  obtain ⟨c, hc, hflow⟩ := h s hs
  exact ⟨c, hc, ((hg.flow s).append hflow).append (hg'.flow _)⟩

theorem flow_plain {c : CodePoint} (h : Plain c) (s : Spot) : Flow s [c] ⟨some c, s.opened⟩ :=
  .plain h .done

theorem ready_comma : Ready (some (CodePoint.ofChar ',')) := by
  intro c hc
  cases hc
  decide

theorem ready_colon : Ready (some (CodePoint.ofChar ':')) := by
  intro c hc
  cases hc
  decide

theorem fluent_commas {ts : List Text} (hne : ts ≠ []) (h : ∀ t ∈ ts, Fluent t) :
    Fluent (commas ts) := by
  induction ts with
  | nil => exact absurd rfl hne
  | cons t ts ih =>
    by_cases hts : ts = []
    · subst hts
      simpa using h t (by simp)
    · intro s hs
      obtain ⟨c, -, hflow⟩ := h t (by simp) s hs
      obtain ⟨d, hd, hflow'⟩ := ih hts (fun u hu => h u (by simp [hu]))
        ⟨some (CodePoint.ofChar ','), s.opened⟩ ready_comma
      rw [commas_cons t hts]
      exact ⟨d, hd, (hflow.append (flow_plain (by decide) _)).append hflow'⟩

theorem ready_opener (b : Bracket) : Ready (some b.opener) := by
  intro c hc
  cases hc
  cases b <;> decide

theorem fluent_container {t : Text} (b : Bracket)
    (h : ∀ opened, ∃ c, c ≠ CodePoint.ofChar ',' ∧
      Flow ⟨some b.opener, opened⟩ t ⟨some c, opened⟩) :
    Fluent (b.opener :: t ++ [b.closer]) := by
  intro s _
  obtain ⟨c, hc, hflow⟩ := h (b :: s.opened)
  have hcloser : b.closer ≠ CodePoint.ofChar ',' := by cases b <;> decide
  refine ⟨b.closer, hcloser, .opener b (hflow.append (.closer b ?_ .done))⟩
  simpa using hc

theorem fluent_empty {g : Text} (b : Bracket) (hg : Gap g) :
    Fluent (b.opener :: g ++ [b.closer]) :=
  fluent_container b fun opened => ⟨b.opener, by cases b <;> decide, hg.flow _⟩

theorem fluent_value {how : Reading} {n : Nat} {w : Text} {v : Json} (h : Value how n w v) :
    Fluent w := by
  induction h with
  | null => exact fluent_atomic (by decide) (by decide)
  | yes => exact fluent_atomic (by decide) (by decide)
  | no => exact fluent_atomic (by decide) (by decide)
  | @constant _ c => exact fluent_atomic (by cases c <;> decide) (atomic_word c)
  | number hm =>
    obtain ⟨c, t, rfl, -⟩ := hm.head
    exact fluent_atomic (by simp) hm.atomic
  | string hw => exact fluent_string hw.quoted
  | emptyArray hg => exact fluent_empty .square hg
  | @array n es hne hs _ ih =>
    refine fluent_container .square fun opened => ?_
    refine fluent_commas (by simpa using hne) ?_ ⟨_, opened⟩ (ready_opener .square)
    rintro _ ht
    obtain ⟨e, he, rfl⟩ := List.mem_map.mp ht
    exact (ih e he).between (hs e he).1 (hs e he).2
  | emptyObject hg => exact fluent_empty .brace hg
  | @object n fs hne hs hb _ ih =>
    refine fluent_container .brace fun opened => ?_
    refine fluent_commas (by simpa using hne) ?_ ⟨_, opened⟩ (ready_opener .brace)
    rintro _ ht
    obtain ⟨f, hf, rfl⟩ := List.mem_map.mp ht
    obtain ⟨hbefore, hafter, hbefore', hafter'⟩ := hs f hf
    intro s hready
    obtain ⟨c, -, hname⟩ :=
      (fluent_string (hb f hf).quoted).between hbefore hafter s hready
    obtain ⟨d, hd, hvalue⟩ := (ih f hf).between hbefore' hafter'
      ⟨some (CodePoint.ofChar ':'), s.opened⟩ ready_colon
    refine ⟨d, hd, ?_⟩
    have hflow := (hname.append (flow_plain (by decide) _)).append hvalue
    simpa [Field.spelled, Element.spelled, Text.ofString] using hflow

theorem Document.flow {how : Reading} {n : Nat} {t : Text} {v : Json} (h : Document how n t v) :
    ∃ c, Flow ⟨none, []⟩ t ⟨some c, []⟩ := by
  obtain @⟨e, hs, hv⟩ := h
  obtain ⟨c, -, hflow⟩ :=
    (fluent_value hv).between hs.1 hs.2 ⟨none, []⟩ (fun c hc => by cases hc)
  exact ⟨c, hflow⟩

theorem exists_flow_of_isBlank {t : Text} (h : t.isBlank = true) (s : Spot) :
    ∃ last, Flow s t ⟨last, s.opened⟩ := by
  induction t generalizing s with
  | nil => exact ⟨s.last, .done⟩
  | cons c t ih =>
    simp only [Text.isBlank, List.all_cons, Bool.and_eq_true, Bool.or_eq_true,
      decide_eq_true_eq] at h
    obtain ⟨hc, ht⟩ := h
    cases hb : c.isBlank with
    | true =>
      obtain ⟨last, hflow⟩ := ih ht s
      exact ⟨last, .blank hb hflow⟩
    | false =>
      have hmark : c = CodePoint.byteOrderMark := by simpa [hb] using hc
      subst hmark
      obtain ⟨last, hflow⟩ := ih ht ⟨some CodePoint.byteOrderMark, s.opened⟩
      exact ⟨last, .plain (by decide) hflow⟩

end JsonDesk.Grammar
