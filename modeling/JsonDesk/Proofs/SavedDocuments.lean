import JsonDesk.Document
import JsonDesk.Proofs.Acceptance
import JsonDesk.Proofs.AtomicSaving

set_option autoImplicit false

namespace JsonDesk

open Json (Clean)

/-! ### A line feed behind a document -/

namespace Grammar

theorem Digits.last {t : Text} (h : Digits t) : ∃ c ∈ t.getLast?, c.isDigit := by
  obtain ⟨hne, hall⟩ := h
  exact ⟨t.getLast hne, List.getLast?_eq_some_getLast hne, hall _ (List.getLast_mem hne)⟩

theorem Whole.allDigits {t : Text} (h : Whole t) : Digits t := by
  cases h with
  | zero => exact ⟨by decide, by decide⟩
  | digits _ hd => exact hd

theorem last_append {P : CodePoint → Prop} {t : Text} (h : ∃ c ∈ t.getLast?, P c) (s : Text) :
    ∃ c ∈ (s ++ t).getLast?, P c := by
  obtain ⟨c, hc, hP⟩ := h
  exact ⟨c, by rw [List.getLast?_append, Option.mem_def.mp hc]; rfl, hP⟩

theorem Number.last {t : Text} {m : Numeral} (h : Number t m) : ∃ c ∈ t.getLast?, c.isDigit := by
  cases h with
  | @mk s w f x ds negative e hs hw hf hx =>
    cases hx with
    | none =>
      rw [List.append_nil]
      cases hf with
      | none =>
        rw [List.append_nil]
        exact last_append hw.allDigits.last s
      | some hd => exact last_append (last_append hd.last ".") _
    | unsigned _ hd => exact last_append (last_append hd.last [_]) _
    | plus _ hd => exact last_append (last_append hd.last (_ :: "+")) _
    | minus _ hd => exact last_append (last_append hd.last (_ :: "-")) _

theorem Value.last {how : Reading} {n : Nat} {w : Text} {v : Json} (h : Value how n w v) :
    ∃ c ∈ w.getLast?, Json.isLayout c = false := by
  cases h with
  | null => exact ⟨_, rfl, by decide⟩
  | yes => exact ⟨_, rfl, by decide⟩
  | no => exact ⟨_, rfl, by decide⟩
  | @constant _ c => cases c <;> exact ⟨_, rfl, by decide⟩
  | number hm =>
    obtain ⟨c, hc, hdigit⟩ := hm.last
    have hvisible := CodePoint.isDigit_iff.mp hdigit
    exact ⟨c, hc, not_isLayout_of_visible (by omega)⟩
  | string => exact last_append ⟨_, rfl, by decide⟩ _
  | emptyArray => exact last_append ⟨_, rfl, by decide⟩ _
  | array => exact last_append ⟨_, rfl, by decide⟩ _
  | emptyObject => exact last_append ⟨_, rfl, by decide⟩ _
  | object => exact last_append ⟨_, rfl, by decide⟩ _

theorem document_append_layout {how : Reading} {n : Nat} {t : Text} {v : Json} {c : CodePoint}
    (hc : Json.isLayout c = true) : Document how n (t ++ [c]) v ↔ Document how n t v := by
  constructor
  · intro h
    generalize hu : t ++ [c] = u at h
    obtain @⟨⟨before, text, after, v⟩, ⟨hbefore, hafter⟩, hval⟩ := h
    rw [Element.spelled] at hu
    rcases List.eq_nil_or_concat after with rfl | ⟨g, d, rfl⟩
    · obtain ⟨d, hd, hlayout⟩ := last_append hval.last before
      rw [List.append_nil] at hu
      rw [← hu, List.getLast?_concat, Option.mem_some_iff] at hd
      rw [hd, hlayout] at hc
      cases hc
    · rw [List.concat_eq_append, ← List.append_assoc] at hu
      obtain ⟨rfl, -⟩ := List.append_inj' hu rfl
      exact .mk (e := ⟨before, text, g, v⟩)
        ⟨hbefore, fun d hd => hafter d (by simp [hd])⟩ hval
  · rintro @⟨⟨before, text, after, v⟩, ⟨hbefore, hafter⟩, hval⟩
    have hgap : Gap (after ++ [c]) := by
      intro d hd
      rcases List.mem_append.mp hd with hd | hd
      · exact hafter d hd
      · rw [List.mem_singleton.mp hd]
        exact isLayout_iff.mp hc
    have h := Document.mk (e := ⟨before, text, after ++ [c], v⟩) ⟨hbefore, hgap⟩ hval
    rwa [Element.spelled, ← List.append_assoc] at h

end Grammar

namespace Verdict

theorem validate_append_break (t : Text) (v : Json) :
    validate (t ++ "\n") = .valid v ↔ validate t = .valid v := by
  have hblank : (t ++ "\n").isBlank = t.isBlank := by
    have hbreak : Text.isBlank "\n" = true := by decide
    rw [Text.isBlank, List.all_append]
    exact (congrArg (t.isBlank && ·) hbreak).trans (Bool.and_true _)
  cases ht : t.isBlank with
  | true => rw [validate_blank ht, validate_blank (hblank.trans ht)]
  | false =>
    rw [validate_eq_valid ht, validate_eq_valid (hblank.trans ht), Json.decode_eq_ok_iff,
      Json.decode_eq_ok_iff]
    exact Grammar.document_append_layout (c := CodePoint.ofChar '\n') (by decide)

end Verdict

/-! ### The text that is saved -/

namespace Text

theorem endsWith_iff {t p : Text} : t.endsWith p = true ↔ p <:+ t := List.isSuffixOf_iff_suffix

theorem savePayload_savePayload (t : Text) : t.savePayload.savePayload = t.savePayload := by
  by_cases h : t = [] ∨ t.endsWith "\n"
  · have hsame : t.savePayload = t := if_pos h
    rw [hsame, hsame]
  · have hbreak : t.savePayload = t ++ "\n" := if_neg h
    rw [hbreak]
    exact if_pos (.inr (endsWith_iff.mpr (List.suffix_append t "\n")))

theorem savePayload_cases {P : Text → Prop} {t : Text} (h : P t) (hbreak : P (t ++ "\n")) :
    P t.savePayload := by
  rw [savePayload]
  split
  · exact h
  · exact hbreak

theorem clean_savePayload {t : Text} (h : Clean t) : Clean t.savePayload :=
  savePayload_cases h fun c hc => (List.mem_append.mp hc).elim (h c) fun hc =>
    (by decide : ∀ d ∈ Text.ofString "\n", d.isSurrogate = false) c hc

theorem head?_savePayload (t : Text) : t.savePayload.head? = t.head? := by
  rw [savePayload]
  cases t with
  | nil => rfl
  | cons c t => split <;> rfl

theorem dropMark_flatMap {t : Text} (hclean : Clean t)
    (hmark : t.head? ≠ some CodePoint.byteOrderMark) :
    dropMark (t.flatMap CodePoint.utf8) = t.flatMap CodePoint.utf8 := by
  unfold dropMark
  split
  · next bs hbytes =>
    exfalso
    cases t with
    | nil => cases hbytes
    | cons c t =>
      obtain ⟨b, rest, hutf8, hsequence⟩ :=
        Utf8.sequence_utf8 (hclean c (.head _)) (t.flatMap CodePoint.utf8)
      rw [List.flatMap_cons, hutf8, List.cons_append, List.cons.injEq] at hbytes
      obtain ⟨rfl, hrest⟩ := hbytes
      have hfirst : Utf8.sequence 0xEF (0xBB :: 0xBF :: bs) =
          (some CodePoint.byteOrderMark, bs) := rfl
      rw [hrest, hfirst, Prod.mk.injEq, Option.some.injEq] at hsequence
      exact hmark (congrArg some hsequence.1.symm)
  · rfl

end Text

namespace Disk

variable {d d' : Disk} {path : Text}

theorem loadText_of_read {t : Text} (hpath : path ≠ []) (hclean : Clean t)
    (hmark : t.head? ≠ some CodePoint.byteOrderMark)
    (h : d.read path = .ok (t.flatMap CodePoint.utf8)) : d.loadText path = .ok t := by
  unfold loadText
  rw [if_neg hpath, h]
  simp only [Text.dropMark_flatMap hclean hmark, Text.ofUtf8?_flatMap hclean]

theorem of_saveText {fault : Option SaveStep} {payload : Text} (hpayload : Clean payload)
    (h : (saveText fault path payload documentEncoding).run.run d = (.ok (), d')) :
    path ≠ [] ∧ d'.read path = .ok (payload.flatMap CodePoint.utf8) := by
  obtain ⟨rfl, bytes, l, hsavable⟩ | ⟨x, hrun⟩ :=
    savable_or_fails fault path payload documentEncoding d
  · exact ⟨hsavable.named, read_of_saveText hpayload h⟩
  · rw [hrun] at h
    cases h

theorem read_saveText_self {payload : Text} (hpayload : Clean payload)
    (h : d.read path = .ok (payload.flatMap CodePoint.utf8)) (fault : Option SaveStep) :
    ((saveText fault path payload documentEncoding).run.run d).2.read path = d.read path := by
  obtain ⟨rfl, bytes, l, hsavable⟩ | ⟨x, hrun⟩ :=
    savable_or_fails fault path payload documentEncoding d
  · have hrun := hsavable.run_saveText
    rw [hrun, h]
    exact read_of_saveText hpayload hrun
  · rw [hrun]

/-- A text without surrogates and without a byte order mark in front is loaded as it was saved, with
a line feed put behind a last line that has none.  Saving what was loaded does not change the file,
and its verdict and value are those of the text that was saved. -/
theorem saved_text_loaded {t : Text} (hclean : ∀ c ∈ t, c.isSurrogate = false)
    (hmark : t.head? ≠ some CodePoint.byteOrderMark) {fault : Option SaveStep}
    (h : (saveText fault path t.savePayload documentEncoding).run.run d = (.ok (), d')) :
    ∃ u, d'.loadText path = .ok u ∧
      (t = [] ∨ Text.ofString "\n" <:+ t → u = t) ∧
      (¬ (t = [] ∨ Text.ofString "\n" <:+ t) → u = t ++ "\n") ∧
      (∀ again, ((saveText again path u.savePayload documentEncoding).run.run d').2.read path =
        d'.read path) ∧
      (validate u).isValid = (validate t).isValid ∧
      ∀ v, validate u = .valid v ↔ validate t = .valid v := by
  have hpayload := Text.clean_savePayload hclean
  have hmark' : t.savePayload.head? ≠ some CodePoint.byteOrderMark := by
    rwa [Text.head?_savePayload]
  obtain ⟨hpath, hread⟩ := of_saveText hpayload h
  have hvalue (v : Json) : validate t.savePayload = .valid v ↔ validate t = .valid v :=
    Text.savePayload_cases (P := fun u => validate u = .valid v ↔ validate t = .valid v) Iff.rfl
      (Verdict.validate_append_break t v)
  refine ⟨t.savePayload, loadText_of_read hpath hpayload hmark' hread, fun hend => ?_,
    fun hend => ?_, fun again => ?_, ?_, hvalue⟩
  · rw [Text.savePayload, if_pos (by rwa [Text.endsWith_iff])]
  · rw [Text.savePayload, if_neg (by rwa [Text.endsWith_iff])]
  · rw [Text.savePayload_savePayload]
    exact read_saveText_self hpayload hread again
  · rw [Bool.eq_iff_iff, Verdict.isValid_iff, Verdict.isValid_iff]
    exact exists_congr hvalue

/-- A carriage return at the end stays as it is, with a line feed behind it. -/
theorem saved_text_loaded_return :
    let t : Text := "[\"\u20AC\"]\r"
    (∀ c ∈ t, c.isSurrogate = false) ∧ t.head? ≠ some CodePoint.byteOrderMark ∧
      ∃ d, (saveText none "/a.json" t.savePayload documentEncoding).run.run .empty = (.ok (), d) ∧
        d.loadText "/a.json" = .ok (t ++ "\n") ∧
        ((saveText none "/a.json" (t ++ "\n") documentEncoding).run.run d).2.read "/a.json" =
          d.read "/a.json" ∧
        (validate (t ++ "\n")).isValid = true := by
  intro t
  have hvalid : (validate "[\"\u20AC\"]\r").isValid = true := by cbv
  have hclean : ∀ c ∈ t, c.isSurrogate = false := by decide
  have hmark : t.head? ≠ some CodePoint.byteOrderMark := by decide
  obtain ⟨d, hsave⟩ : ∃ d,
      (saveText none "/a.json" t.savePayload documentEncoding).run.run .empty = (.ok (), d) :=
    ⟨_, saveText_of_trySave
      (trySave_root (Text.clean_savePayload hclean) (by decide) (by decide +kernel) rfl rfl rfl rfl)⟩
  obtain ⟨u, hload, -, hbreak, hagain, hverdict, -⟩ := saved_text_loaded hclean hmark hsave
  obtain rfl := hbreak (by decide)
  have hpayload : (t ++ "\n").savePayload = t ++ "\n" := by decide
  refine ⟨hclean, hmark, d, hsave, hload, ?_, ?_⟩
  · have hagain := hagain none
    rwa [hpayload] at hagain
  · exact hverdict.trans hvalid

end Disk

end JsonDesk
