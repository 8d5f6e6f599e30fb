import JsonDesk.Proofs.Layouts
import JsonDesk.Proofs.Octets
import JsonDesk.Proofs.Restoring
import JsonDesk.Proofs.Trimming

set_option autoImplicit false

namespace JsonDesk

namespace Text

theorem Paired.of_infix {s t : Text} (h : s.Paired) (hst : s <:+: t) : t.Paired := by
  obtain ⟨a, c, d, b, rfl, hc, hd⟩ := h
  obtain ⟨front, back, rfl⟩ := hst
  exact ⟨front ++ a, c, d, b ++ back, by simp, hc, hd⟩

end Text

namespace Json
open Grammar

/-! ### What is read -/

theorem unpaired_of_decode [StackRoom] {how : Reading} {t : Text} {v : Json}
    (h : decode how t = .ok v) (ht : Clean t) : Texts (fun u => ¬ u.Paired) v := by
  obtain @⟨e, -, hvalue⟩ := decode_eq_ok_iff.mp h
  exact hvalue.unpaired fun c hc => ht c (by simp [Element.spelled, hc])

/-! ### What is displayed -/

theorem not_surrogate_of_isPrintable {c : CodePoint} (h : c.isPrintable = true) :
    c.isSurrogate = false := by
  have hrun : (0xD7FC, 0xF8FF) ∈ CodePoint.unprintableRuns := by decide +kernel
  rw [CodePoint.isSurrogate_eq_false_iff]
  unfold CodePoint.isPrintable at h
  split at h
  · omega
  · simp only [Bool.not_eq_true', List.any_eq_false] at h
    have hout := h _ hrun
    simp at hout
    omega

theorem clean_quoted (t : Text) : Clean t.quoted := by
  have hmark : Clean [t.quoteMark] := by
    unfold Text.quoteMark
    split
    · exact clean_ofString "\""
    · exact clean_ofString "'"
  have hpoint (c : CodePoint) : Clean (Text.quotedPoint t.quoteMark c) := by
    unfold Text.quotedPoint
    split
    · next hc =>
      refine Clean.append (t := [_]) (clean_ofString "\\") ?_
      rcases hc with rfl | rfl
      · exact hmark
      · exact clean_ofString "\\"
    · repeat' split
      · exact clean_ofString _
      · exact clean_ofString _
      · exact clean_ofString _
      · next hc => simpa [Clean] using not_surrogate_of_isPrintable hc
      · exact (clean_ofString _).append (clean_hex _ _)
      · exact (clean_ofString _).append (clean_hex _ _)
      · exact (clean_ofString _).append (clean_hex _ _)
  refine (hmark.append fun c hc => ?_).append hmark
  obtain ⟨d, -, hd⟩ := List.mem_flatMap.mp hc
  exact hpoint d c hd

theorem cleanStyle_display : CleanStyle displayStyle :=
  ⟨clean_ofString _, clean_ofString _, clean_ofString _, clean_written, clean_quoted⟩

theorem clean_display {v : Json} (h : ∀ t, v ≠ .str t) : Clean v.display := by
  cases v with
  | str t => exact absurd rfl (h t)
  | _ =>
    rw [display, write_eq]
    · exact clean_text cleanStyle_display _ _
    · simp

theorem unpaired_display {v : Json} (h : Texts (fun u => ¬ u.Paired) v) : ¬ v.display.Paired := by
  cases v with
  | str t => exact texts_str.mp h
  | _ => exact not_paired_of_clean (clean_display (by simp))

theorem orText_str {t : Text} (h : t ≠ []) (other : Text) : (Json.str t).orText other = t := by
  cases t with
  | nil => exact absurd rfl h
  | cons c t => rfl

theorem not_paired_nil : ¬ Text.Paired [] := not_paired_of_clean clean_nil

theorem unpaired_orEmpty {v : Json} (h : Texts (fun u => ¬ u.Paired) v) : ¬ v.orEmpty.Paired := by
  unfold orEmpty
  split
  · exact unpaired_display h
  · exact not_paired_nil

theorem texts_null {P : Text → Prop} : Texts P .null := ⟨by simp, by simp⟩

theorem texts_int {P : Text → Prop} (i : Int) : Texts P (.int i) := ⟨by simp, by simp⟩

theorem texts_field {P : Text → Prop} {ms : Members} (h : Texts P (.obj ms)) (name : Text) :
    Texts P (field ms name) := by
  unfold field
  cases hv : ms.get? name with
  | none => exact texts_null
  | some v => exact (texts_obj.mp h _ (Members.mem_of_get? hv)).2

theorem texts_member {P : Text → Prop} {v : Json} (h : Texts P v) (name : Text) :
    Texts P (v.member name) := by
  cases v with
  | obj ms => exact texts_field h name
  | _ => exact texts_null

theorem texts_iterate {P : Text → Prop} {v : Json} {raws : List Json} (h : Texts P v)
    (hraws : v.iterate = .ok raws) {ms : Members} (hms : .obj ms ∈ raws) : Texts P (.obj ms) := by
  cases v with
  | arr vs =>
    cases hraws
    exact texts_arr.mp h _ hms
  | str t =>
    cases hraws
    simp at hms
  | obj ns =>
    cases hraws
    simp at hms
  | _ => cases hraws

end Json

open Json

namespace Session

theorem unpaired_wantedIds {v : Json} (h : Texts (fun u => ¬ u.Paired) v) :
    ∀ id ∈ wantedIds v, ¬ id.Paired := by
  intro id hid
  unfold wantedIds at hid
  split at hid
  · next raws hraws =>
    obtain ⟨raw, hraw, hwanted⟩ := List.mem_filterMap.mp hid
    cases raw with
    | obj ms =>
      cases hwanted
      have hrecord := texts_iterate (texts_member h _) hraws hraw
      exact fun hpair => unpaired_orEmpty (texts_field hrecord _) (hpair.of_infix (Text.strip_infix _))
    | _ => cases hwanted
  · cases hid

end Session

namespace Disk

theorem unpaired_loadValue (d : Disk) (path : Text) :
    Texts (fun u => ¬ u.Paired) (d.loadValue path) := by
  unfold loadValue
  split
  · split
    · split
      · next t ht =>
        unfold ofFileText
        split
        · next v hv => exact unpaired_of_decode hv (Text.clean_of_ofUtf8? ht)
        · exact texts_null
      · exact texts_null
    · exact texts_null
  · exact texts_null

end Disk

end JsonDesk
