import JsonDesk.Proofs.Acceptance
import JsonDesk.Proofs.Derived
import JsonDesk.Proofs.Joining

/-!
What becomes of the value of a document that is formatted, minified or sorted.  Its text stays
valid, and its value stays the same up to the order of members, unless a high and a low surrogate
stand next to each other: the writer escapes both, and the reader joins neighbouring escapes.
-/

set_option autoImplicit false

namespace JsonDesk

open Json Grammar

/-- The value of a valid text has a spelling; that of a blank text is null. -/
theorem Verdict.exists_spelling [StackRoom] {t : Text} {v : Json} (h : validate t = .valid v)
    (ht : t.nesting ≤ 400) : ∃ w, Value .strict 400 w v := by
  cases hb : t.isBlank with
  | true =>
    rw [validate_blank hb] at h
    cases h
    exact ⟨_, .null⟩
  | false =>
    have hread := (validate_eq_valid hb).mp h
    obtain ⟨n, hd⟩ := (decode_of_nesting (Nat.le_trans ht StackRoom.ample)).mp hread
    obtain @⟨e, -, hv⟩ := hd.nesting.mono ht
    exact ⟨e.text, hv⟩

namespace Json

/-- The indent can be made, or the value does without blanks. -/
def Spreadable (n : Option Int) (v : Json) : Prop :=
  (∀ k, n = some k → k < Layout.indexLimit) ∨ v = .null ∨ ∃ s, v = .str s

/-- Writing the value leaves it as it is: a number that is not finite keeps it from being written
at all, or else no surrogates in it can be joined. -/
def Kept (v : Json) : Prop := v.nonFinite? ≠ none ∨ Texts (fun t => ¬ t.Paired) v

end Json

namespace Reshape

theorem reordered_apply (r : Reshape) (v : Json) : Reordered (r.apply v) v := by
  cases r with
  | keep => exact .same v
  | sortNames => exact reordered_sortNames v

theorem apply_ne_str {v : Json} (r : Reshape) (h : ∀ s, v ≠ .str s) (s : Text) :
    r.apply v ≠ .str s := by
  intro heq
  have hr := r.reordered_apply v
  rw [heq] at hr
  cases hr
  exact h s rfl

/-- The value of the reshaped document. -/
def rewritten (r : Reshape) (v : Json) : Json :=
  if v.nonFinite? = none then (r.apply v).joined else v

theorem reshape_of_valid [StackRoom] {t : Text} {v : Json} (r : Reshape) (n : Option Int)
    (h : validate t = .valid v) (hv : v ≠ .null) :
    t.reshape r n = (settle ((r.apply v).serialize n)).map fun u => u.getD t := by
  have hvalue : (validate t).value? = some v := by
    rw [h]
    cases v with
    | null => exact absurd rfl hv
    | _ => rfl
  rw [Text.reshape, run, hvalue]

theorem reshape_of_null [StackRoom] {t : Text} (r : Reshape) (n : Option Int)
    (h : validate t = .valid .null) : t.reshape r n = .ok t := by
  rw [Text.reshape, run, h]
  rfl

theorem reshape_of_not_spreadable [StackRoom] {t : Text} {v : Json} {n : Option Int} (r : Reshape)
    (h : validate t = .valid v) (hn : ¬ Spreadable n v) :
    t.reshape r n = .error .notIndexSized := by
  simp only [Spreadable, not_or, not_exists, not_forall] at hn
  obtain ⟨⟨k, rfl, hk⟩, hnull, hstr⟩ := hn
  have hobstacle := obstacle?_of_not_str (.ofIndent (some k)) (r.apply_ne_str hstr)
  rw [Layout.obstacle?_ofIndent_of_le (Int.not_lt.mp hk), Option.some_or] at hobstacle
  rw [reshape_of_valid r _ h hnull, serialize_of_some hobstacle]
  rfl

theorem obstacle?_of_spreadable {v : Json} {n : Option Int} (r : Reshape) (hv : v ≠ .null)
    (hn : Spreadable n v) :
    (r.apply v).obstacle? (.ofIndent n) = (r.apply v).nonFinite?.map fun d =>
      .outOfRange (if Layout.ofIndent n = .compact then none else some d) := by
  rcases hn with hn | hn | ⟨s, rfl⟩
  · exact obstacle?_of_layout (Layout.obstacle?_ofIndent_of_lt hn) _
  · exact absurd hn hv
  · cases r <;> rfl

/-- What is written of a valid text is valid, and its value has its pairs joined. -/
theorem validate_inLayout [StackRoom] {t : Text} {v : Json} (r : Reshape) (layout : Layout)
    (h : validate t = .valid v) (ht : t.nesting ≤ 400) (hv : v.nonFinite? = none) :
    validate ((r.apply v).inLayout layout) = .valid (r.apply v).joined := by
  obtain ⟨w, hw⟩ := Verdict.exists_spelling h ht
  have hr := r.reordered_apply v
  have hdenotable := (hw.denotable hv).reordered hr.symm
  have hdistinct := hw.distinct.reordered hr.symm
  have hlevels : (r.apply v).levels ≤ 400 := Nat.le_trans hr.levels_le hw.levels_le
  have hread := decode_inLayout .strict layout hdenotable hdistinct
    (Nat.le_trans hlevels StackRoom.ample)
  have hblank := (decode_eq_ok_iff.mp hread).not_blank
  exact (Verdict.validate_eq_valid hblank).mpr hread

theorem reshape_of_spreadable [StackRoom] {t : Text} {v : Json} {n : Option Int} (r : Reshape)
    (h : validate t = .valid v) (ht : t.nesting ≤ 400) (hn : Spreadable n v) :
    ∃ u, t.reshape r n = .ok u ∧ validate u = .valid (r.rewritten v) := by
  by_cases hnull : v = .null
  · subst hnull
    refine ⟨t, reshape_of_null r n h, ?_⟩
    rw [h]
    cases r <;> rfl
  · have hobstacle := obstacle?_of_spreadable r hnull hn
    have hnumbers := nonFinite?_reordered (r.reordered_apply v)
    rw [reshape_of_valid r n h hnull, rewritten]
    split
    · next hfinite =>
      rw [hnumbers.mpr hfinite, Option.map_none] at hobstacle
      refine ⟨(r.apply v).inLayout (.ofIndent n), ?_, validate_inLayout r _ h ht hfinite⟩
      rw [serialize_of_none hobstacle]
      rfl
    · next hinfinite =>
      obtain ⟨d, hd⟩ := Option.ne_none_iff_exists'.mp (mt hnumbers.mp hinfinite)
      rw [hd, Option.map_some] at hobstacle
      refine ⟨t, ?_, h⟩
      rw [serialize_of_some hobstacle]
      rfl

theorem reordered_rewritten {v : Json} (r : Reshape) (hd : Distinct v) :
    Reordered (r.rewritten v) v ↔ Kept v := by
  have hr := r.reordered_apply v
  rw [rewritten, Kept]
  split
  · next hfinite =>
    constructor
    · -- reordering leaves the number of code points, and joining a pair lowers it
      intro h
      have hpoints : (r.apply v).points ≤ (r.apply v).joined.points := by
        rw [h.points_eq, hr.points_eq]
      exact .inr ((unpaired_of_points hpoints).reordered hr)
    · rintro (h | h)
      · exact absurd hfinite h
      · rw [joined_eq_self (hd.reordered hr.symm) (h.reordered hr.symm)]
        exact hr
  · next hinfinite => exact ⟨fun _ => .inl hinfinite, fun _ => .same v⟩

theorem rewritten_keep {v : Json} (hd : Distinct v) : keep.rewritten v = v ↔ Kept v := by
  rw [← reordered_rewritten keep hd]
  refine ⟨fun h => ?_, fun h => ?_⟩
  · rw [h]
    exact .same v
  · rcases (reordered_rewritten keep hd).mp h with hk | hk
    · rw [rewritten, if_neg hk]
    · rw [rewritten]
      split
      · exact joined_eq_self hd hk
      · rfl

theorem reshape_reordered_iff [StackRoom] {t : Text} {v : Json} {n : Option Int} (r : Reshape)
    (h : validate t = .valid v) (ht : t.nesting ≤ 400) :
    (∃ u w, t.reshape r n = .ok u ∧ validate u = .valid w ∧ Reordered w v) ↔
      Spreadable n v ∧ Kept v := by
  obtain ⟨w, hw⟩ := Verdict.exists_spelling h ht
  rw [← r.reordered_rewritten hw.distinct]
  constructor
  · rintro ⟨u, w, hu, hvalid, hr⟩
    by_cases hn : Spreadable n v
    · obtain ⟨u', hu', hvalid'⟩ := r.reshape_of_spreadable h ht hn
      cases hu.symm.trans hu'
      cases hvalid.symm.trans hvalid'
      exact ⟨hn, hr⟩
    · rw [r.reshape_of_not_spreadable h hn] at hu
      cases hu
  · rintro ⟨hn, hr⟩
    obtain ⟨u, hu, hvalid⟩ := r.reshape_of_spreadable h ht hn
    exact ⟨u, _, hu, hvalid, hr⟩

theorem reshape_keep_iff [StackRoom] {t : Text} {v : Json} {n : Option Int}
    (h : validate t = .valid v) (ht : t.nesting ≤ 400) :
    (∃ u, t.reshape .keep n = .ok u ∧ validate u = .valid v) ↔ Spreadable n v ∧ Kept v := by
  constructor
  · rintro ⟨u, hu, hvalid⟩
    exact (keep.reshape_reordered_iff h ht).mp ⟨u, v, hu, hvalid, .same v⟩
  · rintro ⟨hn, hk⟩
    obtain ⟨w, hw⟩ := Verdict.exists_spelling h ht
    obtain ⟨u, hu, hvalid⟩ := keep.reshape_of_spreadable h ht hn
    rw [(rewritten_keep hw.distinct).mpr hk] at hvalid
    exact ⟨u, hu, hvalid⟩

theorem valid_of_reshape [StackRoom] {t u : Text} {v : Json} {n : Option Int} {r : Reshape}
    (h : validate t = .valid v) (ht : t.nesting ≤ 400) (hu : t.reshape r n = .ok u) :
    (validate u).isValid = true := by
  by_cases hn : Spreadable n v
  · obtain ⟨u', hu', hvalid⟩ := r.reshape_of_spreadable h ht hn
    cases hu.symm.trans hu'
    exact Verdict.isValid_iff.mpr ⟨_, hvalid⟩
  · rw [r.reshape_of_not_spreadable h hn] at hu
    cases hu

end Reshape

namespace Text

/-- Formatting and minifying keep the value of a document, and sorting keeps it up to the order of
members, just if no surrogates in it can be joined or a number that is not finite keeps it from
being written; formatting and sorting also need an indent that can be made.  What comes out is valid
in any case. -/
theorem value_kept_iff [StackRoom] {t : Text} {v : Json} (n : Int) (h : validate t = .valid v)
    (ht : t.nesting ≤ 400) :
    ((∃ u, t.format n = .ok u ∧ validate u = .valid v) ↔ Spreadable (some n) v ∧ Kept v) ∧
    (validate t.minify = .valid v ↔ Kept v) ∧
    ((∃ u w, t.sortKeys n = .ok u ∧ validate u = .valid w ∧ Reordered w v) ↔
      Spreadable (some n) v ∧ Kept v) ∧
    ∀ u, t.format n = .ok u ∨ t.minify = u ∨ t.sortKeys n = .ok u →
      (validate u).isValid = true := by
  have hnone : Spreadable none v := .inl (by simp)
  have hminify : t.reshape .keep none = .ok t.minify := reshape_keep_none t
  refine ⟨Reshape.reshape_keep_iff h ht, ?_, Reshape.sortNames.reshape_reordered_iff h ht, ?_⟩
  · have hkeep := Reshape.reshape_keep_iff (n := none) h ht
    simpa [hminify, hnone] using hkeep
  · rintro u (hu | rfl | hu)
    · exact Reshape.valid_of_reshape h ht hu
    · exact Reshape.valid_of_reshape h ht hminify
    · exact Reshape.valid_of_reshape h ht hu

/-- A high and a low surrogate between quotes are minified to the escapes of another string. -/
theorem not_value_kept_surrogates :
    validate ['"', ⟨0xD800, by decide⟩, ⟨0xDC00, by decide⟩, '"'] =
        .valid (.str [⟨0xD800, by decide⟩, ⟨0xDC00, by decide⟩]) ∧
      nesting ['"', ⟨0xD800, by decide⟩, ⟨0xDC00, by decide⟩, '"'] ≤ 400 ∧
      validate (minify ['"', ⟨0xD800, by decide⟩, ⟨0xDC00, by decide⟩, '"']) ≠
        .valid (.str [⟨0xD800, by decide⟩, ⟨0xDC00, by decide⟩]) := by
  have hvalid : validate ['"', ⟨0xD800, by decide⟩, ⟨0xDC00, by decide⟩, '"'] =
      .valid (.str [⟨0xD800, by decide⟩, ⟨0xDC00, by decide⟩]) := by cbv
  have hnesting : nesting ['"', ⟨0xD800, by decide⟩, ⟨0xDC00, by decide⟩, '"'] ≤ 400 := by decide
  have hkept : ¬ Kept (.str [⟨0xD800, by decide⟩, ⟨0xDC00, by decide⟩]) := by
    rintro (h | h)
    · exact h rfl
    · exact h.1 _ .self ⟨[], _, _, [], rfl, by decide, by decide⟩
  obtain ⟨-, hminify, -⟩ := value_kept_iff 2 hvalid hnesting
  exact ⟨hvalid, hnesting, fun h => hkept (hminify.mp h)⟩

end Text

end JsonDesk
