import JsonDesk.Reshape
import JsonDesk.Proofs.Writer

/-!
Values come back as they were written.  A value is written raw unless a surrogate would have to
stand for itself; then all of it is escaped, and the surrogates that make pairs come back joined.
-/

set_option autoImplicit false

namespace JsonDesk

namespace Json
open Grammar

/-- The value with the pairs of surrogates joined in every text inside it. -/
def joined (v : Json) : Json := v.mapText Text.joined

/-! ### Where a surrogate is written raw -/

theorem text_subset_itemTexts {style : Style} {depth : Nat} {v : Json} {vs : List Json}
    (h : v ∈ vs) : text style depth v ⊆ itemTexts style depth vs := by
  intro c hc
  induction vs with
  | nil => simp at h
  | cons u vs ih =>
    rw [itemTexts]
    rcases List.mem_cons.mp h with rfl | h
    · simp [hc]
    · simp [ih h]

theorem text_subset_arr {style : Style} {depth : Nat} {v : Json} {vs : List Json} (h : v ∈ vs) :
    text style (depth + 1) v ⊆ text style depth (.arr vs) := by
  intro c hc
  cases vs with
  | nil => simp at h
  | cons u vs =>
    rw [text]
    rcases List.mem_cons.mp h with rfl | h
    · simp [hc]
    · simp [text_subset_itemTexts h hc]

theorem text_subset_memberTexts {style : Style} {depth : Nat} {m : Text × Json} {ms : Members}
    (h : m ∈ ms) : style.string m.1 ++ text style depth m.2 ⊆ memberTexts style depth ms := by
  intro c hc
  induction ms with
  | nil => simp at h
  | cons k ms ih =>
    rw [memberTexts]
    rcases List.mem_cons.mp h with rfl | h
    · rcases List.mem_append.mp hc with hc | hc <;> simp [hc]
    · simp [ih h]

theorem text_subset_obj {style : Style} {depth : Nat} {m : Text × Json} {ms : Members}
    (h : m ∈ ms) : style.string m.1 ++ text style (depth + 1) m.2 ⊆ text style depth (.obj ms) := by
  intro c hc
  cases ms with
  | nil => simp at h
  | cons k ms =>
    rw [text]
    rcases List.mem_cons.mp h with rfl | h
    · rcases List.mem_append.mp hc with hc | hc <;> simp [hc]
    · simp [text_subset_memberTexts h hc]

theorem text_subset_of_inside (style : Style) {u v : Json} (h : Inside u v) (depth : Nat) :
    ∃ depth', text style depth' u ⊆ text style depth v := by
  induction h generalizing depth with
  | self => exact ⟨depth, fun _ hc => hc⟩
  | item hmem _ ih =>
    obtain ⟨depth', hsub⟩ := ih (depth + 1)
    exact ⟨depth', fun c hc => text_subset_arr hmem (hsub hc)⟩
  | member hmem _ ih =>
    obtain ⟨depth', hsub⟩ := ih (depth + 1)
    exact ⟨depth', fun c hc => text_subset_obj hmem (List.mem_append_right _ (hsub hc))⟩

theorem clean_of_writtenString {t : Text} (h : Clean (writtenString false t)) : Clean t := by
  intro c hc
  cases hs : c.isSurrogate with
  | false => rfl
  | true =>
    have hv : 0xD800 ≤ c.val := by
      simp only [CodePoint.isSurrogate, decide_eq_true_eq] at hs
      exact hs.1
    have hraw : c ∈ writtenPoint false c := by
      rcases writtenPoint_cases false c with ⟨d, hd, -⟩ | ⟨hw, -⟩ | ⟨-, -, hlow⟩ | ⟨ha, -⟩
      · cases hd <;> exact absurd hv (by decide)
      · simp [hw]
      · have := hlow rfl
        omega
      · cases ha
    have hmem : c ∈ writtenString false t :=
      List.mem_cons_of_mem _ (List.mem_append_left _ (List.mem_flatMap.mpr ⟨c, hc, hraw⟩))
    rw [h c hmem] at hs
    cases hs

theorem clean_texts {layout : Layout} {v : Json}
    (h : Clean (text (documentStyle layout false) 0 v)) : Texts Clean v := by
  constructor
  · intro t ht
    obtain ⟨depth, hsub⟩ := text_subset_of_inside (documentStyle layout false) ht 0
    exact clean_of_writtenString fun c hc => h c (hsub hc)
  · intro ms hms n hn
    obtain ⟨m, hm, rfl⟩ := List.mem_map.mp hn
    obtain ⟨depth, hsub⟩ := text_subset_of_inside (documentStyle layout false) hms 0
    exact clean_of_writtenString fun c hc =>
      h c (hsub (text_subset_obj hm (List.mem_append_left _ hc)))

theorem not_paired_of_clean {t : Text} (h : Clean t) : ¬ t.Paired := by
  rintro ⟨a, c, d, b, rfl, hc, -⟩
  have hs := h c (by simp)
  simp [CodePoint.isSurrogate_eq, hc] at hs

theorem joined_eq_self {v : Json} (hd : Distinct v) (ht : Texts (fun t => ¬ t.Paired) v) :
    v.joined = v :=
  mapText_eq_self hd (ht.imp fun _ => Text.joined_eq_self)

/-! ### Reading back -/

theorem decode_of_value [StackRoom] {how : Reading} {n : Nat} {t : Text} {v : Json}
    (h : Value how n t v) (hn : n ≤ maxDepth) : decode how t = .ok v := by
  have hd : Document how maxDepth ([] ++ t ++ []) v :=
    .mk (e := ⟨[], t, [], v⟩) ⟨Gap.nil, Gap.nil⟩ (h.mono hn)
  rw [List.nil_append, List.append_nil] at hd
  exact decode_eq_ok_iff.mpr hd

/-- The text of a value in a document is read as the value with its pairs joined. -/
theorem decode_inLayout [StackRoom] (how : Reading) (layout : Layout) {v : Json} (hn : Denotable v)
    (hd : Distinct v) (hl : v.levels ≤ maxDepth) :
    decode how (v.inLayout layout) = .ok v.joined := by
  rw [inLayout]
  simp only [write_eq]
  split
  · exact decode_of_value (value_text how layout body_ascii hn 0) hl
  · next hany =>
    have hclean : Clean (text (documentStyle layout false) 0 v) := by
      simpa [Clean] using hany
    have hself : v.joined = v :=
      joined_eq_self hd ((clean_texts hclean).imp fun _ => not_paired_of_clean)
    have hraw : v.mapText id = v := mapText_eq_self hd ⟨fun _ _ => rfl, fun _ _ _ _ => rfl⟩
    have hvalue := value_text how layout (f := id) body_raw hn 0
    rw [hraw] at hvalue
    rw [hself]
    exact decode_of_value hvalue hl

theorem clean_inLayout (layout : Layout) (v : Json) : Clean (v.inLayout layout) := by
  rw [inLayout]
  simp only [write_eq]
  split
  · exact clean_text (cleanStyle_document layout) v 0
  · next hany => simpa [Clean] using hany

end Json

end JsonDesk
