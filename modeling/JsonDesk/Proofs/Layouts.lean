import JsonDesk.Stats
import JsonDesk.Compare
import JsonDesk.Proofs.Rewriting

/-!
Reshaping a reshaped document.  A text without raw surrogates never spells a pair of them, since
neighbouring escapes of such a pair are joined in reading; so its value is kept, and what is made of
it afterwards is the same as if its layout had never been changed.
-/

set_option autoImplicit false

namespace JsonDesk

open Json

/-! ### Pairs of surrogates in what is spelled -/

namespace Grammar

theorem highUnit_of_ofNat {n : Nat} (h : (CodePoint.ofNat n).isHighSurrogate = true) :
    HighUnit n := by
  by_cases hn : n < 0x110000
  · simpa [CodePoint.ofNat, hn, CodePoint.isHighSurrogate, HighUnit] using h
  · simp [CodePoint.ofNat, hn, CodePoint.isHighSurrogate] at h

theorem lowUnit_of_ofNat {n : Nat} (h : (CodePoint.ofNat n).isLowSurrogate = true) : LowUnit n := by
  by_cases hn : n < 0x110000
  · simpa [CodePoint.ofNat, hn, CodePoint.isLowSurrogate, LowUnit] using h
  · simp [CodePoint.ofNat, hn, CodePoint.isLowSurrogate] at h

theorem joinUnits_not_surrogate (high low : Nat) : (joinUnits high low).isSurrogate = false := by
  rw [joinUnits, CodePoint.ofNat]
  split
  · simp only [CodePoint.isSurrogate, decide_eq_false_iff_not]
    omega
  · decide

theorem Short.not_surrogate {c d : CodePoint} (h : Short c d) : d.isSurrogate = false := by
  cases h <;> decide

theorem lowAhead_of_low {d : CodePoint} {w t : Text} (h : Body w (d :: t)) (hw : Clean w)
    (hd : d.isLowSurrogate = true) : LowAhead w := by
  have hs : d.isSurrogate = true := by simp [CodePoint.isSurrogate_eq, hd]
  generalize ht : d :: t = u at h
  cases h with
  | nil => cases ht
  | plain =>
    cases ht
    simp [hw d (by simp)] at hs
  | short hshort =>
    cases ht
    simp [hshort.not_surrogate] at hs
  | unit hx _ _ =>
    cases ht
    exact .mk hx (lowUnit_of_ofNat hd)
  | pair =>
    rw [(List.cons.inj ht).1, joinUnits_not_surrogate] at hs
    cases hs

theorem not_paired_cons {c : CodePoint} {t : Text} (ht : ¬ t.Paired)
    (h : ∀ d u, t = d :: u → ¬ (c.isHighSurrogate = true ∧ d.isLowSurrogate = true)) :
    ¬ Text.Paired (c :: t) := by
  cases t with
  | nil => exact Text.not_paired_singleton c
  | cons d u =>
    rw [Text.paired_cons_cons]
    exact not_or.mpr ⟨h d u rfl, ht⟩

theorem not_paired_cons_of_not_surrogate {c : CodePoint} {t : Text} (ht : ¬ t.Paired)
    (hc : c.isSurrogate = false) : ¬ Text.Paired (c :: t) := by
  rw [CodePoint.isSurrogate_eq, Bool.or_eq_false_iff] at hc
  exact not_paired_cons ht fun d u _ h => by simp [hc.1] at h

theorem Body.unpaired {w t : Text} (h : Body w t) (hw : Clean w) : ¬ t.Paired := by
  induction h with
  | nil =>
    intro hp
    obtain ⟨a, c, d, b, h, -⟩ := hp
    simp at h
  | @plain c w t _ _ _ _ ih =>
    exact not_paired_cons_of_not_surrogate (ih fun d hd => hw d (.tail _ hd)) (hw c (.head _))
  | short hs _ ih =>
    exact not_paired_cons_of_not_surrogate (ih fun d hd => hw d (by simp [hd])) hs.not_surrogate
  | @unit x w t n _ hlone hb ih =>
    have hclean : Clean w := fun d hd => hw d (by simp [hd])
    refine not_paired_cons (ih hclean) fun d u hu h => hlone ?_
    subst hu
    exact ⟨highUnit_of_ofNat h.1, lowAhead_of_low hb hclean h.2⟩
  | pair _ _ _ _ _ ih =>
    exact not_paired_cons_of_not_surrogate (ih fun d hd => hw d (by simp [hd]))
      (joinUnits_not_surrogate _ _)

theorem subset_commas {t : Text} {ts : List Text} (h : t ∈ ts) : t ⊆ commas ts := by
  intro c hc
  induction ts with
  | nil => cases h
  | cons u ts ih =>
    by_cases hne : ts = []
    · subst hne
      rwa [commas_singleton, ← List.mem_singleton.mp h]
    · rw [commas_cons u hne]
      cases List.mem_cons.mp h with
      | inl h => simp [← h, hc]
      | inr h => simp [ih h]

theorem Value.unpaired {how : Reading} {n : Nat} {w : Text} {v : Json} (h : Value how n w v)
    (hw : Clean w) : Texts (fun t => ¬ t.Paired) v := by
  induction h with
  | null => exact ⟨by simp, by simp⟩
  | yes => exact ⟨by simp, by simp⟩
  | no => exact ⟨by simp, by simp⟩
  | @constant n c _ => cases c <;> exact ⟨by simp [Constant.value], by simp [Constant.value]⟩
  | number _ hm =>
    obtain ⟨i, rfl, -⟩ | ⟨d, rfl⟩ := Numeral.denoted?_cases hm
    · exact ⟨by simp, by simp⟩
    · exact ⟨by simp, by simp⟩
  | string hb => exact texts_str.mpr (hb.unpaired fun c hc => hw c (by simp [hc]))
  | emptyArray => exact texts_arr.mpr (by simp)
  | @array n es _ _ _ ih =>
    refine texts_arr.mpr fun v hv => ?_
    obtain ⟨e, he, rfl⟩ := List.mem_map.mp hv
    refine ih e he fun c hc => hw c ?_
    have hspelled := subset_commas (List.mem_map_of_mem (f := Element.spelled) he)
    simp [hspelled (show c ∈ e.spelled by simp [Element.spelled, hc])]
  | emptyObject => exact texts_obj.mpr (by simp)
  | @object n fs _ _ hb _ ih =>
    refine texts_obj.mpr fun m hm => ?_
    obtain ⟨f, hf, rfl⟩ := List.mem_map.mp (Members.mem_of_mem_settled hm)
    have hspelled := subset_commas (List.mem_map_of_mem (f := Field.spelled) hf)
    have hfield : Clean f.spelled := fun c hc => hw c (by simp [hspelled hc])
    constructor
    · exact (hb f hf).unpaired fun c hc => hfield c (by simp [Field.spelled, hc])
    · exact ih f hf fun c hc => hfield c (by simp [Field.spelled, Element.spelled, hc])

end Grammar

theorem Verdict.kept_of_clean [StackRoom] {t : Text} {v : Json} (h : validate t = .valid v)
    (hc : Clean t) (ht : t.nesting ≤ 400) : Kept v := by
  cases hb : t.isBlank with
  | true =>
    rw [validate_blank hb] at h
    cases h
    exact .inr ⟨by simp, by simp⟩
  | false =>
    have hread := (validate_eq_valid hb).mp h
    obtain ⟨n, hd⟩ := (decode_of_nesting (Nat.le_trans ht StackRoom.ample)).mp hread
    obtain @⟨e, -, hv⟩ := hd
    exact .inr (hv.unpaired fun c hmem => hc c (by simp [Grammar.Element.spelled, hmem]))

/-! ### Reshaping twice -/

namespace Json

theorem le_of_sorted (ms : Members) :
    (ms.mergeSort fun m n => Text.le m.1 n.1).Pairwise fun m n => Text.le m.1 n.1 :=
  List.pairwise_mergeSort (fun a b c => @Text.le_trans a.1 b.1 c.1)
    (fun a b => Text.le_total a.1 b.1) ms

theorem sortNames_sortNames (v : Json) : v.sortNames.sortNames = v.sortNames := by
  induction v using tree with
  | arr vs ih =>
    simp only [sortNames, sortItems_eq, List.reverse_nil, List.nil_append, List.map_map]
    congr 1
    exact List.map_congr_left ih
  | obj ms ih =>
    simp only [sortNames, sortMembers_eq, List.reverse_nil, List.nil_append]
    congr 1
    have hmap : ∀ ks : Members, ks.Perm (ms.map fun m => (m.1, sortNames m.2)) →
        (ks.map fun m => (m.1, sortNames m.2)) = ks := by
      intro ks hks
      conv_rhs => rw [← List.map_id ks]
      refine List.map_congr_left fun k hk => ?_
      obtain ⟨m, hm, rfl⟩ := List.mem_map.mp (hks.mem_iff.mp hk)
      rw [ih m hm]
      rfl
    rw [hmap _ (List.mergeSort_perm _ _), List.mergeSort_of_pairwise (le_of_sorted _)]
  | _ => rfl

end Json

namespace Reshape

/-- Sorting outlasts any other layout. -/
def followedBy : Reshape → Reshape → Reshape
  | keep, r => r
  | sortNames, _ => sortNames

theorem apply_apply (r r' : Reshape) (v : Json) :
    r'.apply (r.apply v) = (r.followedBy r').apply v := by
  cases r <;> cases r' <;> simp [apply, followedBy, sortNames_sortNames]

theorem reshape_of_invalid [StackRoom] {t : Text} (r : Reshape) (n : Option Int)
    (h : (validate t).isValid = false) : t.reshape r n = .ok t := by
  rw [Text.reshape, run]
  cases hv : validate t with
  | valid v => simp [hv, Verdict.isValid] at h
  | invalid => rfl

theorem kind_of_layout {layout : Layout} {e : Failure} (h : layout.obstacle? = some e) :
    e.kind ≠ .value := by
  cases layout with
  | indented width =>
    simp only [Layout.obstacle?] at h
    split at h
    · cases h
      decide
    · cases h
  | _ => cases h

theorem settle_of_layout {layout : Layout} {e : Failure} (h : layout.obstacle? = some e) :
    settle (.error e) = .error e := by
  rw [settle, if_neg (kind_of_layout h)]

theorem reshape_of_finite [StackRoom] {t : Text} {v : Json} (r : Reshape) (n : Option Int)
    (h : validate t = .valid v) (hnull : v ≠ .null) (hv : v.nonFinite? = none) :
    t.reshape r n = (r.apply v).serialize n := by
  have hfinite := (nonFinite?_reordered (r.reordered_apply v)).mpr hv
  rw [reshape_of_valid r n h hnull, serialize]
  cases hstr : r.apply v with
  | str s => rfl
  | _ =>
    rw [← hstr, obstacle?_of_not_str _ (by simp [hstr]), hfinite, Option.map_none, Option.or_none]
    cases hlayout : (Layout.ofIndent n).obstacle? with
    | none => rfl
    | some e =>
      simp only [settle_of_layout hlayout]
      rfl

theorem reshape_of_nonFinite [StackRoom] {t : Text} {v : Json} (r : Reshape) (n : Option Int)
    (h : validate t = .valid v) (hv : v.nonFinite? ≠ none) :
    t.reshape r n = match (Layout.ofIndent n).obstacle? with
      | some e => .error e
      | none => .ok t := by
  have hnull : v ≠ .null := by
    intro hv'
    simp [hv', nonFinite?] at hv
  have hstr : ∀ s, v ≠ .str s := by
    intro s hv'
    simp [hv', nonFinite?] at hv
  obtain ⟨d, hd⟩ :=
    Option.ne_none_iff_exists'.mp (mt (nonFinite?_reordered (r.reordered_apply v)).mp hv)
  rw [reshape_of_valid r n h hnull, serialize, obstacle?_of_not_str _ (r.apply_ne_str hstr), hd]
  cases hlayout : (Layout.ofIndent n).obstacle? with
  | none => rfl
  | some e =>
    simp only [Option.some_or, settle_of_layout hlayout]
    rfl

theorem spreadable_of_reshape [StackRoom] {t s : Text} {v : Json} {n : Option Int} {r : Reshape}
    (h : validate t = .valid v) (hs : t.reshape r n = .ok s) : Spreadable n v := by
  by_contra hn
  rw [r.reshape_of_not_spreadable h hn] at hs
  cases hs

/-- Without raw surrogates, written numbers or not, what a reshaped document reads as is known. -/
theorem validate_reshape [StackRoom] {t s : Text} {v : Json} {n : Option Int} {r : Reshape}
    (hc : Clean t) (ht : t.nesting ≤ 400) (h : validate t = .valid v) (hv : v.nonFinite? = none)
    (hs : t.reshape r n = .ok s) : validate s = .valid (r.apply v) := by
  obtain ⟨w, hw⟩ := Verdict.exists_spelling h ht
  obtain ⟨s', hs', hvalid⟩ := r.reshape_of_spreadable h ht (spreadable_of_reshape h hs)
  cases hs.symm.trans hs'
  have hr := (r.reordered_apply v).symm
  have hpairs := (Verdict.kept_of_clean h hc ht).resolve_left (not_not.mpr hv)
  rw [hvalid, rewritten, if_pos hv, joined_eq_self (hw.distinct.reordered hr) (hpairs.reordered hr)]

theorem apply_ne_null {v : Json} (r : Reshape) (h : v ≠ .null) : r.apply v ≠ .null := by
  intro heq
  have hr := r.reordered_apply v
  rw [heq] at hr
  cases hr
  exact h rfl

theorem reshape_reshape [StackRoom] {t s : Text} {m : Option Int} {r : Reshape} (hc : Clean t)
    (ht : t.nesting ≤ 400) (hs : t.reshape r m = .ok s) (r' : Reshape) (n : Option Int) :
    s.reshape r' n = t.reshape (r.followedBy r') n := by
  cases h : validate t with
  | invalid =>
    have hinvalid : (validate t).isValid = false := by simp [h, Verdict.isValid]
    rw [reshape_of_invalid _ _ hinvalid] at hs ⊢
    cases hs
    exact reshape_of_invalid _ _ hinvalid
  | valid v =>
    by_cases hnull : v = .null
    · subst hnull
      rw [reshape_of_null _ _ h] at hs ⊢
      cases hs
      exact reshape_of_null _ _ h
    · by_cases hv : v.nonFinite? = none
      · have hfinite := (nonFinite?_reordered (r.reordered_apply v)).mpr hv
        rw [reshape_of_finite _ _ (validate_reshape hc ht h hv hs) (r.apply_ne_null hnull) hfinite,
          reshape_of_finite _ _ h hnull hv, apply_apply]
      · have hself : s = t := by
          rw [reshape_of_nonFinite _ _ h hv] at hs
          split at hs <;> cases hs
          rfl
        rw [hself, reshape_of_nonFinite _ _ h hv, reshape_of_nonFinite _ _ h hv]

theorem validate_keep [StackRoom] {t s : Text} {n : Option Int} (hc : Clean t)
    (ht : t.nesting ≤ 400) (hs : t.reshape .keep n = .ok s) : validate s = validate t := by
  cases h : validate t with
  | invalid =>
    rw [reshape_of_invalid _ _ (by simp [h, Verdict.isValid])] at hs
    cases hs
    exact h
  | valid v =>
    obtain ⟨w, hw⟩ := Verdict.exists_spelling h ht
    obtain ⟨s', hs', hvalid⟩ := keep.reshape_of_spreadable h ht (spreadable_of_reshape h hs)
    cases hs.symm.trans hs'
    rw [hvalid, (rewritten_keep hw.distinct).mpr (Verdict.kept_of_clean h hc ht)]

theorem reshape_ok_iff [StackRoom] {t : Text} {n : Option Int} (r : Reshape)
    (ht : t.nesting ≤ 400) :
    (∃ s, t.reshape r n = .ok s) ↔ ∀ v, validate t = .valid v → Spreadable n v := by
  constructor
  · intro h v hv
    obtain ⟨s, hs⟩ := h
    exact spreadable_of_reshape hv hs
  · intro h
    cases hv : validate t with
    | invalid => exact ⟨t, reshape_of_invalid r n (by simp [hv, Verdict.isValid])⟩
    | valid v =>
      obtain ⟨s, hs, -⟩ := r.reshape_of_spreadable hv ht (h v hv)
      exact ⟨s, hs⟩

end Reshape

namespace Text

/-- Nothing that is done to a document tells in which layout it was before, and its names need to be
sorted only once.  Formatting and sorting give a text just if the indent can be made. -/
theorem layout_invisible [StackRoom] {t : Text} (hc : ∀ c ∈ t, c.isSurrogate = false)
    (ht : t.nesting ≤ 400) (u : Text) (n m : Int) :
    (∀ s, t.format m = .ok s ∨ t.minify = s →
      s.format n = t.format n ∧ s.minify = t.minify ∧ s.sortKeys n = t.sortKeys n ∧
      compare s u = compare t u ∧ (Stats.ofText s).keys = (Stats.ofText t).keys ∧
      (Stats.ofText s).depth = (Stats.ofText t).depth) ∧
    (∀ s, t.sortKeys m = .ok s → s.format n = t.sortKeys n ∧ s.sortKeys n = t.sortKeys n) ∧
    ((∃ s, t.format m = .ok s) ↔ ∀ v, validate t = .valid v → Spreadable (some m) v) ∧
    ((∃ s, t.sortKeys m = .ok s) ↔ ∀ v, validate t = .valid v → Spreadable (some m) v) ∧
    ∀ v, validate t = .valid v → ¬ Spreadable (some m) v →
      t.format m = .error .notIndexSized ∧ t.sortKeys m = .error .notIndexSized := by
  refine ⟨fun s hs => ?_, fun s hs => ?_, Reshape.reshape_ok_iff _ ht, Reshape.reshape_ok_iff _ ht,
    fun v hv hn => ⟨Reshape.keep.reshape_of_not_spreadable hv hn,
      Reshape.sortNames.reshape_of_not_spreadable hv hn⟩⟩
  · obtain ⟨k, hk⟩ : ∃ k, t.reshape .keep k = .ok s := by
      cases hs with
      | inl hs => exact ⟨some m, hs⟩
      | inr hs => exact ⟨none, hs ▸ reshape_keep_none t⟩
    have hverdict := Reshape.validate_keep hc ht hk
    refine ⟨Reshape.reshape_reshape hc ht hk .keep (some n), ?_,
      Reshape.reshape_reshape hc ht hk .sortNames (some n), ?_, ?_, ?_⟩
    · have hminify := Reshape.reshape_reshape hc ht hk .keep none
      rw [reshape_keep_none, Reshape.followedBy, reshape_keep_none] at hminify
      exact Except.ok.inj hminify
    · rw [compare, compare, hverdict]
    · rw [Stats.ofText, Stats.ofText, hverdict]
      split <;> rfl
    · rw [Stats.ofText, Stats.ofText, hverdict]
      split <;> rfl
  · exact ⟨Reshape.reshape_reshape hc ht hs .keep (some n),
      Reshape.reshape_reshape hc ht hs .sortNames (some n)⟩

theorem layout_invisible_array : (∀ c ∈ Text.ofString "[2, 1]", c.isSurrogate = false) ∧
    nesting "[2, 1]" ≤ 400 ∧
    ∃ s, format "[2, 1]" 4 = .ok s ∧ s.format 2 = format "[2, 1]" 2 := by
  have hc : ∀ c ∈ Text.ofString "[2, 1]", c.isSurrogate = false := by decide
  have ht : nesting "[2, 1]" ≤ 400 := by decide
  have hindent : ∀ v, Spreadable (some 4) v := fun v => .inl (by simp [Layout.indexLimit])
  obtain ⟨hlayout, -, hformat, -, -⟩ := layout_invisible hc ht [] 2 4
  obtain ⟨s, hs⟩ := hformat.mpr fun v _ => hindent v
  exact ⟨hc, ht, s, hs, (hlayout s (.inl hs)).1⟩

/-- A layout of more blanks than can be made is not invisible: there is no such text to go on
with. -/
theorem not_layout_invisible_every_indent :
    ¬ ∀ (t : Text) (n m : Int), (∀ c ∈ t, c.isSurrogate = false) → t.nesting ≤ 400 →
      ((t.format m).bind fun s => s.format n) = t.format n := by
  intro h
  have hzero : Grammar.Number "0" ⟨false, "0", [], none⟩ := .mk .plus .zero .none .none
  have hvalid : validate "0" = .valid (.int 0) :=
    (Verdict.validate_eq_valid (by decide)).mpr
      (decode_of_value (.number hzero rfl) (Nat.zero_le _))
  have hfinite : (Json.int 0).nonFinite? = none := rfl
  have hfails : format "0" 9223372036854775808 = .error .notIndexSized := by
    rw [format, Reshape.reshape_of_finite _ _ hvalid (by simp) hfinite, serialize,
      obstacle?_of_not_str _ (by simp [Reshape.apply]), Layout.obstacle?_ofIndent_of_le (by decide)]
    rfl
  have hspread : Spreadable (some 2) (.int 0) := .inl (by simp [Layout.indexLimit])
  obtain ⟨s, hs, -⟩ := Reshape.keep.reshape_of_spreadable hvalid (by decide) hspread
  have heq := h "0" 2 9223372036854775808 (by decide) (by decide)
  rw [hfails, format, hs] at heq
  cases heq

end Text

end JsonDesk
