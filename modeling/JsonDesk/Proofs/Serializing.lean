import JsonDesk.Proofs.RoundTrip

set_option autoImplicit false

namespace JsonDesk

namespace Layout

theorem obstacle?_ofIndent (k : Int) :
    (ofIndent (some k)).obstacle? =
      if (indexLimit : Int) ≤ k then some .notIndexSized else none := by
  have hindex : 0 < indexLimit := by decide
  by_cases hk : k ≤ 0
  · have hlt : ¬ (indexLimit : Int) ≤ k := by omega
    simp [ofIndent, hk, obstacle?, hlt]
  · have hle : indexLimit ≤ k.toNat ↔ (indexLimit : Int) ≤ k := by omega
    simp [ofIndent, hk, obstacle?, hle]

theorem obstacle?_ofIndent_of_lt {n : Option Int} (h : ∀ k, n = some k → k < indexLimit) :
    (ofIndent n).obstacle? = none := by
  cases n with
  | none => rfl
  | some k =>
    have hk := h k rfl
    rw [obstacle?_ofIndent, if_neg (by omega)]

theorem obstacle?_ofIndent_of_le {k : Int} (h : (indexLimit : Int) ≤ k) :
    (ofIndent (some k)).obstacle? = some .notIndexSized := by
  rw [obstacle?_ofIndent, if_pos h]

end Layout

namespace Json

theorem nonFiniteItem?_eq_none {vs : List Json} :
    nonFiniteItem? vs = none ↔ ∀ v ∈ vs, nonFinite? v = none := by
  induction vs with
  | nil => simp [nonFiniteItem?]
  | cons v vs ih => cases hv : nonFinite? v <;> simp [nonFiniteItem?, hv, ih]

theorem nonFiniteMember?_eq_none {ms : Members} :
    nonFiniteMember? ms = none ↔ ∀ m ∈ ms, nonFinite? m.2 = none := by
  induction ms with
  | nil => simp [nonFiniteMember?]
  | cons m ms ih => cases hm : nonFinite? m.2 <;> simp [nonFiniteMember?, hm, ih]

theorem nonFinite?_eq_none {v : Json} :
    v.nonFinite? = none ↔ ∀ d, Inside (.float d) v → d.isFinite = true := by
  induction v using tree with
  | null => simp [nonFinite?]
  | bool b => simp [nonFinite?]
  | int i => simp [nonFinite?]
  | float d => simp [nonFinite?]
  | str t => simp [nonFinite?]
  | arr vs ih =>
    rw [nonFinite?, nonFiniteItem?_eq_none]
    simp only [inside_arr, reduceCtorEq, false_or]
    constructor
    · rintro h d ⟨v, hv, hin⟩
      exact (ih v hv).mp (h v hv) d hin
    · intro h v hv
      exact (ih v hv).mpr fun d hin => h d ⟨v, hv, hin⟩
  | obj ms ih =>
    rw [nonFinite?, nonFiniteMember?_eq_none]
    simp only [inside_obj, reduceCtorEq, false_or]
    constructor
    · rintro h d ⟨m, hm, hin⟩
      exact (ih m hm).mp (h m hm) d hin
    · intro h m hm
      exact (ih m hm).mpr fun d hin => h d ⟨m, hm, hin⟩

theorem obstacle?_str (layout : Layout) (t : Text) : (Json.str t).obstacle? layout = none := rfl

theorem obstacle?_of_not_str (layout : Layout) {v : Json} (h : ∀ t, v ≠ .str t) :
    v.obstacle? layout = layout.obstacle?.or
      (v.nonFinite?.map fun d => .outOfRange (if layout = .compact then none else some d)) := by
  cases v with
  | str t => exact absurd rfl (h t)
  | _ => rfl

theorem obstacle?_of_layout {layout : Layout} (hl : layout.obstacle? = none) (v : Json) :
    v.obstacle? layout =
      v.nonFinite?.map fun d => .outOfRange (if layout = .compact then none else some d) := by
  cases v <;> simp [obstacle?, nonFinite?, hl]

theorem serialize_of_none {v : Json} {n : Option Int} (h : v.obstacle? (.ofIndent n) = none) :
    v.serialize n = .ok (v.inLayout (.ofIndent n)) := by
  simp [serialize, h]

theorem serialize_of_some {v : Json} {n : Option Int} {e : Failure}
    (h : v.obstacle? (.ofIndent n) = some e) : v.serialize n = .error e := by
  simp [serialize, h]

/-- A value that is written and read again is the same: names are distinct, integers are short
enough, doubles are finite, and no text has a high surrogate with a low one behind it. -/
structure Codable (v : Json) : Prop where
  distinct : Distinct v
  denotable : Denotable v
  unpaired : Texts (fun t => ¬ t.Paired) v

/-- A value comes back from its serialized text, which can always be saved, whatever the indent is,
as long as the indent can be made; a string does not even need that. -/
theorem serialize_comes_back [StackRoom] (v : Json) (n : Option Int) (hv : Codable v)
    (hl : v.levels ≤ 400) :
    (((∀ k, n = some k → k < Layout.indexLimit) ∨ ∃ s, v = .str s) →
      ∃ t, v.serialize n = .ok t ∧ decode .strict t = .ok v ∧ ∀ c ∈ t, c.isSurrogate = false) ∧
    ∀ k, n = some k → Layout.indexLimit ≤ k → (∀ s, v ≠ .str s) →
      v.serialize n = .error .notIndexSized := by
  constructor
  · intro h
    have hobstacle : v.obstacle? (.ofIndent n) = none := by
      rcases h with h | ⟨s, rfl⟩
      · rw [obstacle?_of_layout (Layout.obstacle?_ofIndent_of_lt h),
          nonFinite?_eq_none.mpr hv.denotable.2, Option.map_none]
      · exact obstacle?_str _ s
    have hread := decode_inLayout .strict (.ofIndent n) hv.denotable hv.distinct
      (Nat.le_trans hl StackRoom.ample)
    rw [joined_eq_self hv.distinct hv.unpaired] at hread
    exact ⟨v.inLayout (.ofIndent n), serialize_of_none hobstacle, hread,
      clean_inLayout _ v⟩
  · rintro k rfl hk hstr
    refine serialize_of_some ?_
    rw [obstacle?_of_not_str _ hstr, Layout.obstacle?_ofIndent_of_le hk]
    rfl

theorem serialize_comes_back_surrogate :
    Codable (.arr [.str [⟨0xD800, by decide⟩], .int (-7)]) ∧
      levels (.arr [.str [⟨0xD800, by decide⟩], .int (-7)]) ≤ 400 ∧
      ∃ t, serialize (.arr [.str [⟨0xD800, by decide⟩], .int (-7)]) (some 2) = .ok t ∧
        decode .strict t = .ok (.arr [.str [⟨0xD800, by decide⟩], .int (-7)]) ∧
        ∀ c ∈ t, c.isSurrogate = false := by
  have hcodable : Codable (.arr [.str [⟨0xD800, by decide⟩], .int (-7)]) := by
    refine ⟨?_, ⟨?_, ?_⟩, ?_, ?_⟩
    · simp [Distinct]
    · intro i hi
      simp at hi
      subst hi
      exact Nat.lt_of_lt_of_le (by decide : 7 < 10 ^ 1)
        (Nat.pow_le_pow_right (by decide) (by decide))
    · simp
    · intro t ht
      simp at ht
      subst ht
      exact Text.not_paired_singleton _
    · simp
  have hlevels : levels (.arr [.str [⟨0xD800, by decide⟩], .int (-7)]) ≤ 400 := by decide
  exact ⟨hcodable, hlevels,
    (serialize_comes_back _ (some 2) hcodable hlevels).1 (.inl (by simp [Layout.indexLimit]))⟩

/-- Not every indent can be made: there is no text of a number with blanks beyond the last index. -/
theorem not_serialize_every_indent :
    ¬ ∀ (v : Json) (n : Option Int), Codable v → v.levels ≤ 400 →
      ∃ t, v.serialize n = .ok t ∧ decode .strict t = .ok v ∧ ∀ c ∈ t, c.isSurrogate = false := by
  intro h
  have hcodable : Codable (.int 0) := by
    refine ⟨by simp [Distinct], ⟨?_, by simp⟩, by simp, by simp⟩
    intro i hi
    simp at hi
    subst hi
    exact Nat.pow_pos (by decide)
  have herror : serialize (.int 0) (some 9223372036854775808) = .error .notIndexSized := by
    refine serialize_of_some ?_
    rw [obstacle?_of_not_str _ (by simp), Layout.obstacle?_ofIndent_of_le (by decide)]
    rfl
  obtain ⟨t, ht, -⟩ := h (.int 0) (some 9223372036854775808) hcodable (by decide)
  rw [herror] at ht
  cases ht

end Json

end JsonDesk
