import JsonDesk.Proofs.Strings

/-!
What each reader gives and leaves, said once for each: later arguments about reading rest on these
equivalences and never open a reader again.
-/

set_option autoImplicit false

namespace JsonDesk

namespace Grammar

theorem isLayout_iff {c : CodePoint} : Json.isLayout c = true ↔
    c = CodePoint.ofChar ' ' ∨ c = CodePoint.ofChar '\t' ∨ c = CodePoint.ofChar '\n' ∨
      c = CodePoint.ofChar '\r' := by
  simp [Json.isLayout, or_assoc]

theorem Gap.nil : Gap [] := by simp [Gap]

/-- The first code point of a text is none that may stand between tokens. -/
def Solid (t : Text) : Prop := ∀ c ∈ t.head?, Json.isLayout c = false

theorem skipLayout_of_gap {g w : Text} (hg : Gap g) (hw : Solid w) :
    Json.skipLayout (g ++ w) = w := by
  rw [Json.skipLayout, List.dropWhile_append_of_pos fun c hc => isLayout_iff.mpr (hg c hc)]
  cases w with
  | nil => rfl
  | cons c w => simp [hw c rfl]

theorem exists_gap (t : Text) : ∃ g, Gap g ∧ t = g ++ Json.skipLayout t :=
  ⟨t.takeWhile Json.isLayout,
    fun c hc => isLayout_iff.mp (List.all_eq_true.mp List.all_takeWhile c hc),
    List.takeWhile_append_dropWhile.symm⟩

end Grammar

namespace Json
open Grammar

/-! ### What each reader gives -/

theorem exists_reads {α : Type} {start : Text} {result : Except Fault (Parsed α start)}
    {p : Parsed α start} (h : result = .ok p) {P : α → Text → Prop} :
    (∃ v r, Reads result v r ∧ P v r) ↔ P p.value p.rest := by
  simp [h, and_assoc]

theorem exists_cons {t s : Text} {c : CodePoint} (h : t = c :: s) {P : Text → Prop} :
    (∃ s', t = c :: s' ∧ P s') ↔ P s := by
  simp [h]

theorem reads_value_string [StackRoom] {how : Reading} {depth : Nat} {t r : Text} {v : Json} :
    Reads (value how depth (CodePoint.ofChar '"' :: t)) v r ↔
      ∃ s, (∃ w, Body w s ∧ t = w ++ "\"" ++ r) ∧ .str s = v := by
  have hread (s : Text) : Reads (string (CodePoint.ofChar '"' :: t) t (by simp) []) s r ↔
    ∃ w, Body w s ∧ t = w ++ "\"" ++ r := reads_string
  rw [value]
  simp only [if_true, ← hread]
  split
  · next he => simp [he]
  · next p hp => simp [hp, and_assoc, and_comm]

theorem reads_elements [StackRoom] {how : Reading} {depth : Nat} {start t r : Text}
    {h : t.length < start.length} {done : List Json} {v : Json} :
    Reads (elements how depth start t h done) v r ↔
      ∃ u rest, Reads (value how (depth + 1) t) u rest ∧
        (skipLayout rest = CodePoint.ofChar ']' :: r ∧ .arr (u :: done).reverse = v ∨
          ∃ s h', skipLayout rest = CodePoint.ofChar ',' :: s ∧
            Reads (elements how depth start (skipLayout s) h' (u :: done)) v r) := by
  rw [elements]
  split
  · next he => simp [he]
  · next p hp =>
    rw [exists_reads hp]
    split
    · next hs => simp [hs]
    · next d s hs =>
      split
      · next hd => simp [hs, hd, and_comm]
      · split
        · next hc =>
          constructor
          · intro h
            exact .inr ⟨s, _, by rw [hs, hc], h⟩
          · rintro (⟨hs', -⟩ | ⟨s', h', hs', h⟩)
            · simp [hs, hc] at hs'
            · rw [hs] at hs'
              cases hs'
              exact h
        · next hd hc => simp [hs, hd, hc]

theorem reads_members [StackRoom] {how : Reading} {depth : Nat} {start t r : Text}
    {h : t.length < start.length} {done : Members} {v : Json} :
    Reads (members how depth start t h done) v r ↔
      ∃ t' name rest, t = CodePoint.ofChar '"' :: t' ∧ (∃ w, Body w name ∧ t' = w ++ "\"" ++ rest) ∧
        ∃ s, skipLayout rest = CodePoint.ofChar ':' :: s ∧
          ∃ u rest', Reads (value how (depth + 1) (skipLayout s)) u rest' ∧
            (skipLayout rest' = CodePoint.ofChar '\x7d' :: r ∧
                .obj (Members.ofList ((name, u) :: done).reverse) = v ∨
              ∃ s' h', skipLayout rest' = CodePoint.ofChar ',' :: s' ∧
                Reads (members how depth start (skipLayout s') h' ((name, u) :: done)) v r) := by
  rw [members.eq_def]
  split
  · simp
  · next c t h =>
    split
    · next hc =>
      subst hc
      have hread (name rest : Text) :
          Reads (string (CodePoint.ofChar '"' :: t) t (by simp) []) name rest ↔
            ∃ w, Body w name ∧ t = w ++ "\"" ++ rest := reads_string
      simp only [List.cons.injEq, true_and, exists_and_left, exists_eq_left', ← hread]
      split
      · next he => simp [he]
      · next k hk =>
        rw [exists_reads hk]
        split
        · next hs => simp [hs]
        · next d s hs =>
          split
          · next hd =>
            rw [exists_cons (hs.trans (by rw [hd]))]
            split
            · next he => simp [he]
            · next p hp =>
              rw [exists_reads hp]
              split
              · next hu => simp [hu]
              · next e u hu =>
                split
                · next he => simp [hu, he, and_comm]
                · split
                  · next hc =>
                    constructor
                    · intro h
                      exact .inr ⟨u, by rw [hu, hc], _, h⟩
                    · rintro (⟨hu', -⟩ | ⟨u', hu', h', h⟩)
                      · simp [hu, hc] at hu'
                      · rw [hu] at hu'
                        cases hu'
                        exact h
                  · next he hc => simp [hu, he, hc]
          · next hd => simp [hs, hd]
    · next hc => simp [hc]

theorem reads_opened {start t r : Text} {close : CodePoint} {empty v : Json}
    {result : Except Fault (Parsed Json start)}
    (loop : ∀ u : Text, u.length < start.length → Except Fault (Parsed Json start))
    (hclose : ∀ s, skipLayout t = close :: s → ∃ h, result = .ok ⟨empty, s, h⟩)
    (hloop : (skipLayout t).head? ≠ some close → ∃ h, result = loop (skipLayout t) h) :
    Reads result v r ↔ skipLayout t = close :: r ∧ empty = v ∨
      (skipLayout t).head? ≠ some close ∧ ∃ h, Reads (loop (skipLayout t) h) v r := by
  by_cases hc : (skipLayout t).head? = some close
  · obtain ⟨s, hs⟩ := List.head?_eq_some_iff.mp hc
    obtain ⟨h, rfl⟩ := hclose s hs
    simp [hs, and_comm]
  · obtain ⟨h, rfl⟩ := hloop hc
    constructor
    · exact fun hread => .inr ⟨hc, h, hread⟩
    · rintro (⟨hs, -⟩ | ⟨-, _, hread⟩)
      · simp [hs] at hc
      · exact hread

theorem length_lt_opened (c : CodePoint) (t : Text) :
    ∀ u : Text, u.length ≤ (skipLayout t).length → u.length < (c :: t).length := fun _ hu =>
  Nat.lt_succ_of_le (Nat.le_trans hu (length_skipLayout_le t))

theorem value_array_close [StackRoom] {how : Reading} {depth : Nat} {t s : Text}
    (hd : depth < maxDepth) (hs : skipLayout t = CodePoint.ofChar ']' :: s) :
    ∃ h, value how depth (CodePoint.ofChar '[' :: t) = .ok ⟨.arr [], s, h⟩ := by
  have hlen := length_lt_opened '[' t s (by simp [hs])
  rw [value]
  simp only [CodePoint.ofChar_inj, Char.reduceEq, if_false, if_true, Nat.not_le.mpr hd]
  split
  · next h => simp [hs] at h
  · next h =>
    rw [hs] at h
    cases h
    exact ⟨hlen, if_pos rfl⟩

theorem value_array_elements [StackRoom] {how : Reading} {depth : Nat} {t : Text}
    (hd : depth < maxDepth) (hne : (skipLayout t).head? ≠ some (CodePoint.ofChar ']')) :
    ∃ h, value how depth (CodePoint.ofChar '[' :: t) =
      elements how depth (CodePoint.ofChar '[' :: t) (skipLayout t) h [] := by
  have hlen := length_lt_opened '[' t _ (Nat.le_refl _)
  rw [value]
  simp only [CodePoint.ofChar_inj, Char.reduceEq, if_false, if_true, Nat.not_le.mpr hd]
  split
  · next h => exact ⟨hlen, by simp only [h]⟩
  · next h =>
    simp only [h, List.head?_cons, ne_eq, Option.some.injEq] at hne hlen ⊢
    exact ⟨hlen, if_neg hne⟩

theorem reads_value_array [StackRoom] {how : Reading} {depth : Nat} {t r : Text} {v : Json} :
    Reads (value how depth (CodePoint.ofChar '[' :: t)) v r ↔
      depth < maxDepth ∧
        (skipLayout t = CodePoint.ofChar ']' :: r ∧ .arr [] = v ∨
          (skipLayout t).head? ≠ some (CodePoint.ofChar ']') ∧
            ∃ h, Reads (elements how depth (CodePoint.ofChar '[' :: t) (skipLayout t) h [])
              v r) := by
  by_cases hd : depth < maxDepth
  · simp only [hd, true_and]
    exact reads_opened (fun u h => elements how depth _ u h []) (fun s => value_array_close hd)
      (value_array_elements hd)
  · rw [value]
    simp [hd, Nat.not_lt.mp hd]

theorem value_object_close [StackRoom] {how : Reading} {depth : Nat} {t s : Text}
    (hd : depth < maxDepth) (hs : skipLayout t = CodePoint.ofChar '\x7d' :: s) :
    ∃ h, value how depth (CodePoint.ofChar '\x7b' :: t) = .ok ⟨.obj [], s, h⟩ := by
  have hlen := length_lt_opened '\x7b' t s (by simp [hs])
  rw [value]
  simp only [CodePoint.ofChar_inj, Char.reduceEq, if_false, if_true, Nat.not_le.mpr hd]
  split
  · next h => simp [hs] at h
  · next h =>
    rw [hs] at h
    cases h
    exact ⟨hlen, if_pos rfl⟩

theorem value_object_members [StackRoom] {how : Reading} {depth : Nat} {t : Text}
    (hd : depth < maxDepth) (hne : (skipLayout t).head? ≠ some (CodePoint.ofChar '\x7d')) :
    ∃ h, value how depth (CodePoint.ofChar '\x7b' :: t) =
      members how depth (CodePoint.ofChar '\x7b' :: t) (skipLayout t) h [] := by
  have hlen := length_lt_opened '\x7b' t _ (Nat.le_refl _)
  rw [value]
  simp only [CodePoint.ofChar_inj, Char.reduceEq, if_false, if_true, Nat.not_le.mpr hd]
  split
  · next h => exact ⟨hlen, by simp only [h]⟩
  · next h =>
    simp only [h, List.head?_cons, ne_eq, Option.some.injEq] at hne hlen ⊢
    exact ⟨hlen, if_neg hne⟩

theorem reads_value_object [StackRoom] {how : Reading} {depth : Nat} {t r : Text} {v : Json} :
    Reads (value how depth (CodePoint.ofChar '\x7b' :: t)) v r ↔
      depth < maxDepth ∧
        (skipLayout t = CodePoint.ofChar '\x7d' :: r ∧ .obj [] = v ∨
          (skipLayout t).head? ≠ some (CodePoint.ofChar '\x7d') ∧
            ∃ h, Reads (members how depth (CodePoint.ofChar '\x7b' :: t) (skipLayout t) h [])
              v r) := by
  by_cases hd : depth < maxDepth
  · simp only [hd, true_and]
    exact reads_opened (fun u h => members how depth _ u h []) (fun s => value_object_close hd)
      (value_object_members hd)
  · rw [value]
    simp [hd, Nat.not_lt.mp hd]

theorem value_scalar [StackRoom] {how : Reading} {depth : Nat} {c : CodePoint} {t : Text}
    (hq : c ≠ CodePoint.ofChar '"') (hb : c ≠ CodePoint.ofChar '[')
    (ho : c ≠ CodePoint.ofChar '\x7b') :
    value how depth (c :: t) = scalar how (c :: t) := by
  rw [value]
  simp [hq, hb, ho]

theorem word?_eq_some_iff {w : Text} {hw : w ≠ []} {v : Json} {t : Text} {p : Parsed Json t} :
    word? w hw v t = some p ↔ t = w ++ p.rest ∧ p.value = v := by
  unfold word?
  split
  · next h =>
    simp only [reduceCtorEq, false_iff]
    rintro ⟨ht, -⟩
    rw [Text.after?_eq_some_iff.mpr ht] at h
    cases h
  · next r h =>
    have ht := Text.after?_eq_some_iff.mp h
    constructor
    · intro hp
      cases hp
      exact ⟨ht, rfl⟩
    · rintro ⟨ht', rfl⟩
      have hr : r = p.rest := List.append_cancel_left (ht.symm.trans ht')
      cases p
      simp_all

theorem constant?_eq_some {t : Text} {c : Constant} {p : Parsed Json t}
    (h : constant? t = some (c, p)) : t = c.word ++ p.rest ∧ p.value = c.value := by
  unfold constant? at h
  simp only [Option.or_eq_some_iff, Option.map_eq_some_iff, word?_eq_some_iff, Prod.mk.injEq] at h
  rcases h with ⟨_, h, rfl, rfl⟩ | ⟨-, ⟨_, h, rfl, rfl⟩ | ⟨-, _, h, rfl, rfl⟩⟩
  · exact h
  · exact h
  · exact h

theorem reads_number {how : Reading} {t r : Text} {v : Json} :
    Reads (number how t) v r ↔
      ∃ m, Numeral.read? t = some (m, r) ∧ m.denoted? how = some v := by
  unfold number
  split
  · next h => simp [h]
  · next m r' h =>
    have hm : (∃ m', Numeral.read? t = some (m', r) ∧ m'.denoted? how = some v) ↔
        r' = r ∧ m.denoted? how = some v := by
      simp [h, and_assoc]
    rw [hm, Numeral.denoted?]
    split
    · split
      · simp [and_comm]
      · split <;> simp [and_comm]
    · simp [and_comm]

theorem value_of_reads_scalar {how : Reading} {t r : Text} {v : Json} (n : Nat)
    (h : Reads (scalar how t) v r) : ∃ w, Value how n w v ∧ t = w ++ r := by
  unfold scalar at h
  split at h
  · next p hp =>
    obtain ⟨rfl, rfl⟩ := reads_ok.mp h
    simp only [Option.or_eq_some_iff, word?_eq_some_iff] at hp
    rcases hp with ⟨ht, hv⟩ | ⟨-, ⟨ht, hv⟩ | ⟨-, ht, hv⟩⟩
    · exact ⟨_, hv ▸ .null, ht⟩
    · exact ⟨_, hv ▸ .yes, ht⟩
    · exact ⟨_, hv ▸ .no, ht⟩
  · split at h
    · next c p hc =>
      obtain ⟨ht, hv⟩ := constant?_eq_some hc
      split at h
      · next hconst =>
        obtain ⟨rfl, rfl⟩ := reads_ok.mp h
        exact ⟨_, hv ▸ .constant hconst, ht⟩
      · simp at h
    · obtain ⟨m, hm, hv⟩ := reads_number.mp h
      obtain ⟨w, hw, ht⟩ := Numeral.read?_sound hm
      exact ⟨w, .number hw hv, ht⟩

theorem word?_self {w : Text} (hw : w ≠ []) (v : Json) (r : Text) :
    ∃ p, word? w hw v (w ++ r) = some p ∧ p.value = v ∧ p.rest = r := by
  have hlen : r.length < (w ++ r).length := by
    have := List.length_pos_iff.mpr hw
    simp; omega
  exact ⟨⟨v, r, hlen⟩, word?_eq_some_iff.mpr ⟨rfl, rfl⟩, rfl, rfl⟩

theorem reads_scalar_null (how : Reading) (r : Text) :
    Reads (scalar how ("null" ++ r)) .null r := by
  obtain ⟨p, hp, hv, hr⟩ := word?_self (w := "null") (by decide) .null r
  simp [scalar, hp, hv, hr]

theorem reads_scalar_yes (how : Reading) (r : Text) :
    Reads (scalar how ("true" ++ r)) (.bool true) r := by
  obtain ⟨p, hp, hv, hr⟩ := word?_self (w := "true") (by decide) (.bool true) r
  have hn : word? "null" (by decide) .null ("true" ++ r) = none := rfl
  simp [scalar, hn, hp, hv, hr]

theorem reads_scalar_no (how : Reading) (r : Text) :
    Reads (scalar how ("false" ++ r)) (.bool false) r := by
  obtain ⟨p, hp, hv, hr⟩ := word?_self (w := "false") (by decide) (.bool false) r
  have hn : word? "null" (by decide) .null ("false" ++ r) = none := rfl
  have hy : word? "true" (by decide) (.bool true) ("false" ++ r) = none := rfl
  simp [scalar, hn, hy, hp, hv, hr]

theorem constant?_word (c : Constant) (r : Text) :
    ∃ p, constant? (c.word ++ r) = some (c, p) ∧ p.value = c.value ∧ p.rest = r := by
  cases c with
  | nan =>
    obtain ⟨p, hp, h⟩ := word?_self (w := "NaN") (by decide) (.float .nan) r
    exact ⟨p, by simp [constant?, Constant.word, hp], h⟩
  | infinity =>
    obtain ⟨p, hp, h⟩ := word?_self (w := "Infinity") (by decide) (.float (.infinite false)) r
    have hnan : word? "NaN" (by decide) (.float .nan) ("Infinity" ++ r) = none := rfl
    exact ⟨p, by simp [constant?, Constant.word, hnan, hp], h⟩
  | minusInfinity =>
    obtain ⟨p, hp, h⟩ := word?_self (w := "-Infinity") (by decide) (.float (.infinite true)) r
    have hnan : word? "NaN" (by decide) (.float .nan) ("-Infinity" ++ r) = none := rfl
    have hinf : word? "Infinity" (by decide) (.float (.infinite false)) ("-Infinity" ++ r) = none :=
      rfl
    exact ⟨p, by simp [constant?, Constant.word, hnan, hinf, hp], h⟩

theorem reads_scalar_constant {how : Reading} (h : how.constants = true) (c : Constant) (r : Text) :
    Reads (scalar how (c.word ++ r)) c.value r := by
  obtain ⟨p, hp, hv, hr⟩ := constant?_word c r
  have hwords : (word? "null" (by decide) .null (c.word ++ r)).or
      ((word? "true" (by decide) (.bool true) (c.word ++ r)).or
        (word? "false" (by decide) (.bool false) (c.word ++ r))) = none := by
    cases c <;> rfl
  rw [scalar, hwords, hp]
  simp [h, hv, hr]

theorem word?_eq_none {w : Text} {hw : w ≠ []} {v : Json} {t : Text}
    (h : ∀ r, t ≠ w ++ r) : word? w hw v t = none := by
  rw [Option.eq_none_iff_forall_ne_some]
  intro p hp
  exact h _ (word?_eq_some_iff.mp hp).1

theorem ne_word_of_read? {t r : Text} {m : Numeral} (h : Numeral.read? t = some (m, r)) :
    ∀ w ∈ ([("null" : Text), "true", "false", "NaN", "Infinity", "-Infinity"] : List Text), ∀ u,
      t ≠ w ++ u := by
  intro w hw u ht
  subst ht
  simp only [List.mem_cons, List.not_mem_nil, or_false] at hw
  rcases hw with rfl | rfl | rfl | rfl | rfl | rfl <;> cases h

theorem reads_scalar_number {how : Reading} {t r : Text} {m : Numeral} {v : Json}
    (hm : Numeral.read? t = some (m, r)) (hv : m.denoted? how = some v) :
    Reads (scalar how t) v r := by
  have hne := ne_word_of_read? hm
  have hwords : (word? "null" (by decide) .null t).or
      ((word? "true" (by decide) (.bool true) t).or
        (word? "false" (by decide) (.bool false) t)) = none := by
    rw [word?_eq_none (hne _ (by simp)), word?_eq_none (hne _ (by simp)),
      word?_eq_none (hne _ (by simp))]
    rfl
  have hconst : constant? t = none := by
    rw [constant?, word?_eq_none (hne _ (by simp)), word?_eq_none (hne _ (by simp)),
      word?_eq_none (hne _ (by simp))]
    rfl
  rw [scalar, hwords, hconst]
  exact reads_number.mpr ⟨m, hm, hv⟩

end Json

end JsonDesk
