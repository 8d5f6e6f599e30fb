import JsonDesk.Verdict
import JsonDesk.Proofs.Nesting

set_option autoImplicit false

namespace JsonDesk

namespace Grammar

theorem Document.mono {how : Reading} {n m : Nat} {t : Text} {v : Json} (h : Document how n t v)
    (hnm : n ≤ m) : Document how m t v := by
  obtain @⟨e, hs, hv⟩ := h
  exact .mk hs (hv.mono hnm)

theorem Document.not_blank {how : Reading} {n : Nat} {t : Text} {v : Json}
    (h : Document how n t v) : t.isBlank = false := by
  obtain @⟨e, hs, hv⟩ := h
  obtain ⟨c, w, hw, hc⟩ := hv.head
  have hvisible := hc.visible
  have hmark : c ≠ CodePoint.byteOrderMark := by
    rintro rfl
    exact absurd hvisible.2 (by decide)
  have hblank : c.isBlank = false := by
    simp [CodePoint.isBlank]
    omega
  rw [Text.isBlank, List.all_eq_false]
  exact ⟨c, by simp [Element.spelled, hw], by simp [hblank, hmark]⟩

end Grammar

namespace Json
open Grammar

/-- For texts that are shallow enough the reader knows no limit. -/
theorem decode_of_nesting [StackRoom] {how : Reading} {t : Text} {v : Json}
    (h : t.nesting ≤ maxDepth) :
    decode how t = .ok v ↔ ∃ n, Document how n t v := by
  rw [decode_eq_ok_iff]
  exact ⟨fun hd => ⟨_, hd⟩, fun ⟨_, hd⟩ => hd.nesting.mono h⟩

end Json

namespace Verdict
open Grammar

theorem validate_blank [StackRoom] {t : Text} (h : t.isBlank = true) :
    validate t = .valid .null := by
  simp [validate, h]

theorem validate_eq_valid [StackRoom] {t : Text} {v : Json} (h : t.isBlank = false) :
    validate t = .valid v ↔ Json.decode .strict t = .ok v := by
  simp only [validate, h, Bool.false_eq_true, if_false]
  split
  · next hd => simp [hd]
  · next hd => simp [hd]

theorem not_isValid_of_decode [StackRoom] {t : Text} (hblank : t.isBlank = false)
    (hdecode : (Json.decode .strict t).isOk = false) : (validate t).isValid = false := by
  unfold validate
  rw [hblank]
  cases h : Json.decode .strict t with
  | ok v =>
    rw [h] at hdecode
    cases hdecode
  | error fault => rfl

theorem isValid_iff {d : Verdict} : d.isValid = true ↔ ∃ v, d = .valid v := by
  cases d <;> simp [isValid]

/-- Blank texts and documents are valid, and nothing else is; the value of a document is the one
that its derivation spells. -/
theorem validate_exactly_documents [StackRoom] (t : Text) (h : t.nesting ≤ 400) :
    ((validate t).isValid = true ↔ t.isBlank = true ∨ ∃ n v, Document .strict n t v) ∧
      ∀ n v, Document .strict n t v → validate t = .valid v := by
  have hread {v : Json} : Json.decode .strict t = .ok v ↔ ∃ n, Document .strict n t v :=
    Json.decode_of_nesting (Nat.le_trans h StackRoom.ample)
  have hvalue : ∀ n v, Document .strict n t v → validate t = .valid v := fun n v hd =>
    (validate_eq_valid hd.not_blank).mpr (hread.mpr ⟨n, hd⟩)
  refine ⟨⟨fun hv => ?_, ?_⟩, hvalue⟩
  · obtain ⟨v, hv⟩ := isValid_iff.mp hv
    cases hb : t.isBlank with
    | true => exact .inl rfl
    | false =>
      obtain ⟨n, hd⟩ := hread.mp ((validate_eq_valid hb).mp hv)
      exact .inr ⟨n, v, hd⟩
  · rintro (hb | ⟨n, v, hd⟩)
    · rw [validate_blank hb]
      rfl
    · rw [hvalue n v hd]
      rfl

theorem validate_exactly_documents_array :
    Text.nesting "[\x7b\x7d, 10]" ≤ 400 ∧
      validate "[\x7b\x7d, 10]" = .valid (.arr [.obj [], .int 10]) := by
  have hten : Number "10" ⟨false, "10", [], none⟩ :=
    .mk .plus (.digits (c := '1') (t := "0") (by decide) ⟨by decide, by decide⟩) .none .none
  have hs : ∀ e ∈ ([⟨[], "\x7b\x7d", [], .obj []⟩, ⟨" ", "10", [], .int 10⟩] : List Element),
      e.Spaced := by simp [Element.Spaced, Gap, Text.ofString]
  have hv : ∀ e ∈ ([⟨[], "\x7b\x7d", [], .obj []⟩, ⟨" ", "10", [], .int 10⟩] : List Element),
      Value .strict 1 e.text e.value := by
    intro e he
    simp only [List.mem_cons, List.not_mem_nil, or_false] at he
    rcases he with rfl | rfl
    · exact .emptyObject (g := []) Gap.nil
    · exact .number hten rfl
  have hd : Document .strict 2 "[\x7b\x7d, 10]" (.arr [.obj [], .int 10]) :=
    .mk (e := ⟨[], _, [], _⟩) ⟨Gap.nil, Gap.nil⟩ (.array (by simp) hs hv)
  exact ⟨by decide, (validate_exactly_documents _ (by decide)).2 2 _ hd⟩

end Verdict

end JsonDesk
