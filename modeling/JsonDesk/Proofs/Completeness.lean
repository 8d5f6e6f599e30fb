import JsonDesk.Proofs.Soundness

/-!
What the grammar derives, the reader takes, provided that it is not nested too deep and that nothing
behind it makes a number longer.  With soundness this says exactly which texts are documents.
-/

set_option autoImplicit false

namespace JsonDesk

namespace Grammar
open Numeral

/-- The code points that a value may start with. -/
def Opening (c : CodePoint) : Prop := c ∈ Text.ofString "\"[\x7bntfNI-" ∨ c.isDigit

instance (c : CodePoint) : Decidable (Opening c) := inferInstanceAs (Decidable (_ ∨ _))

theorem Opening.visible {c : CodePoint} (h : Opening c) : 0x21 ≤ c.val ∧ c.val < 0x7C := by
  rcases h with h | h
  · have all : ∀ d ∈ Text.ofString "\"[\x7bntfNI-", 0x21 ≤ d.val ∧ d.val < 0x7C := by decide
    exact all c h
  · have := CodePoint.isDigit_iff.mp h
    omega

theorem not_opening_bracket : ¬ Opening (CodePoint.ofChar ']') := by decide

theorem not_opening_brace : ¬ Opening (CodePoint.ofChar '\x7d') := by decide

theorem not_isLayout_of_visible {c : CodePoint} (h : 0x21 ≤ c.val) : Json.isLayout c = false := by
  rw [← Bool.not_eq_true, isLayout_iff]
  rintro (rfl | rfl | rfl | rfl) <;> revert h <;> decide

theorem Value.head {how : Reading} {n : Nat} {w : Text} {v : Json} (h : Value how n w v) :
    ∃ c t, w = c :: t ∧ Opening c := by
  cases h with
  | null => exact ⟨_, _, rfl, .inl (by decide)⟩
  | yes => exact ⟨_, _, rfl, .inl (by decide)⟩
  | no => exact ⟨_, _, rfl, .inl (by decide)⟩
  | @constant _ c => cases c <;> exact ⟨_, _, rfl, .inl (by decide)⟩
  | number hm =>
    obtain ⟨c, t, rfl, rfl | hc⟩ := hm.head
    · exact ⟨_, _, rfl, .inl (by decide)⟩
    · exact ⟨_, _, rfl, .inr hc⟩
  | string => exact ⟨_, _, rfl, .inl (by decide)⟩
  | emptyArray => exact ⟨_, _, rfl, .inl (by decide)⟩
  | array => exact ⟨_, _, rfl, .inl (by decide)⟩
  | emptyObject => exact ⟨_, _, rfl, .inl (by decide)⟩
  | object => exact ⟨_, _, rfl, .inl (by decide)⟩

theorem Value.solid {how : Reading} {n : Nat} {w : Text} {v : Json} (h : Value how n w v)
    (r : Text) : Solid (w ++ r) := by
  obtain ⟨c, t, rfl, hc⟩ := h.head
  intro d hd
  cases hd
  exact not_isLayout_of_visible hc.visible.1

theorem ends_nil : Ends [] := by simp [Ends, NoDigit]

theorem ends_cons {a : Char} (h : ¬ (0x30 ≤ a.toNat ∧ a.toNat ≤ 0x39))
    (hne : a ≠ '.' ∧ a ≠ 'e' ∧ a ≠ 'E') (r : Text) : Ends (CodePoint.ofChar a :: r) := by
  refine ⟨?_, ?_⟩
  · intro c hc
    cases hc
    exact CodePoint.not_isDigit_ofChar h
  · intro c hc
    cases hc
    simpa using hne

theorem Gap.ends {g r : Text} (hg : Gap g) (hr : Ends r) : Ends (g ++ r) := by
  cases g with
  | nil => exact hr
  | cons c g =>
    rcases hg c (by simp) with rfl | rfl | rfl | rfl <;> exact ends_cons (by decide) (by decide) _

theorem Value.mono {how : Reading} {n m : Nat} {w : Text} {v : Json} (h : Value how n w v)
    (hnm : n ≤ m) : Value how m w v := by
  induction h generalizing m with
  | null => exact .null
  | yes => exact .yes
  | no => exact .no
  | constant hc => exact .constant hc
  | number hm hv => exact .number hm hv
  | string hw => exact .string hw
  | emptyArray hg =>
    obtain ⟨k, rfl⟩ : ∃ k, m = k + 1 := ⟨m - 1, by omega⟩
    exact .emptyArray hg
  | array hne hs _ ih =>
    obtain ⟨k, rfl⟩ : ∃ k, m = k + 1 := ⟨m - 1, by omega⟩
    exact .array hne hs fun e he => ih e he (by omega)
  | emptyObject hg =>
    obtain ⟨k, rfl⟩ : ∃ k, m = k + 1 := ⟨m - 1, by omega⟩
    exact .emptyObject hg
  | object hne hs hb _ ih =>
    obtain ⟨k, rfl⟩ : ∃ k, m = k + 1 := ⟨m - 1, by omega⟩
    exact .object hne hs hb fun f hf => ih f hf (by omega)

end Grammar

namespace Json
open Grammar

/-- The text spells a value that the reader finds inside so many containers, whatever follows. -/
def Readable [StackRoom] (how : Reading) (depth : Nat) (w : Text) (v : Json) : Prop :=
  ∀ r, Numeral.Ends r → Reads (value how depth (w ++ r)) v r

theorem skipLayout_element {e : Element} (hs : e.Spaced) (hsolid : ∀ r, Solid (e.text ++ r))
    (rest : Text) : skipLayout (e.spelled ++ rest) = e.text ++ (e.after ++ rest) := by
  rw [Element.spelled, List.append_assoc, List.append_assoc]
  exact skipLayout_of_gap hs.1 (hsolid _)

theorem skipLayout_field {f : Field} (hs : f.Spaced) (rest : Text) :
    skipLayout (f.spelled ++ rest) = CodePoint.ofChar '"' ::
      (f.body ++ "\"" ++ (f.after ++ CodePoint.ofChar ':' :: (f.element.spelled ++ rest))) := by
  have hshape : f.spelled ++ rest = f.before ++ CodePoint.ofChar '"' ::
      (f.body ++ "\"" ++ (f.after ++ CodePoint.ofChar ':' :: (f.element.spelled ++ rest))) := by
    simp [Field.spelled, Text.ofString]
  rw [hshape]
  exact skipLayout_of_gap hs.1 (by simp [Solid]; decide)

theorem commas_cons_append (t : Text) {ts : List Text} (h : ts ≠ []) (r : Text) :
    commas (t :: ts) ++ r = t ++ CodePoint.ofChar ',' :: (commas ts ++ r) := by
  rw [commas_cons t h]
  simp [Text.ofString]

theorem reads_elements_of [StackRoom] {how : Reading} {depth : Nat} {es : List Element}
    (hne : es ≠ []) (hs : ∀ e ∈ es, e.Spaced) (hsolid : ∀ e ∈ es, ∀ r, Solid (e.text ++ r))
    (hr : ∀ e ∈ es, Readable how (depth + 1) e.text e.value) (start r : Text) (done : List Json)
    (h : (skipLayout (commas (es.map Element.spelled) ++ "]" ++ r)).length < start.length) :
    Reads (elements how depth start (skipLayout (commas (es.map Element.spelled) ++ "]" ++ r)) h
      done) (.arr (done.reverse ++ es.map Element.value)) r := by
  induction es generalizing done with
  | nil => exact absurd rfl hne
  | cons e es ih =>
    have hafter := (hs e (by simp)).2
    have hskip := skipLayout_element (hs e (by simp)) (hsolid e (by simp))
    have hread := hr e (by simp)
    by_cases hes : es = []
    · subst hes
      have hshape : commas ([e].map Element.spelled) ++ "]" ++ r =
          e.spelled ++ (CodePoint.ofChar ']' :: r) := by simp [Text.ofString]
      simp only [hshape, hskip] at h ⊢
      refine reads_elements.mpr ⟨e.value, _, hread _ (hafter.ends (ends_cons (by decide)
        (by decide) _)), .inl ⟨?_, by simp⟩⟩
      exact skipLayout_of_gap hafter (by simp [Solid]; decide)
    · have hshape : commas ((e :: es).map Element.spelled) ++ "]" ++ r =
          e.spelled ++ CodePoint.ofChar ',' :: (commas (es.map Element.spelled) ++ "]" ++ r) := by
        rw [List.map_cons, List.append_assoc, commas_cons_append _ (by simpa using hes),
          List.append_assoc]
      simp only [hshape, hskip] at h ⊢
      have hcomma := skipLayout_of_gap hafter (w := CodePoint.ofChar ',' ::
        (commas (es.map Element.spelled) ++ "]" ++ r)) (by simp [Solid]; decide)
      have hlen := length_skipLayout_le (commas (es.map Element.spelled) ++ "]" ++ r)
      have h' :
          (skipLayout (commas (es.map Element.spelled) ++ "]" ++ r)).length < start.length := by
        simp only [List.length_append, List.length_cons] at h hlen ⊢
        omega
      refine reads_elements.mpr ⟨e.value, _, hread _ (hafter.ends (ends_cons (by decide)
        (by decide) _)), .inr ⟨_, h', hcomma, ?_⟩⟩
      have hrest := ih hes (fun e he => hs e (by simp [he])) (fun e he => hsolid e (by simp [he]))
        (fun e he => hr e (by simp [he])) (e.value :: done) h'
      simpa using hrest

theorem reads_members_of [StackRoom] {how : Reading} {depth : Nat} {fs : List Field} (hne : fs ≠ [])
    (hs : ∀ f ∈ fs, f.Spaced) (hb : ∀ f ∈ fs, Body f.body f.name)
    (hsolid : ∀ f ∈ fs, ∀ r, Solid (f.element.text ++ r))
    (hr : ∀ f ∈ fs, Readable how (depth + 1) f.element.text f.element.value) (start r : Text)
    (done : Members)
    (h : (skipLayout (commas (fs.map Field.spelled) ++ "\x7d" ++ r)).length < start.length) :
    Reads (members how depth start (skipLayout (commas (fs.map Field.spelled) ++ "\x7d" ++ r)) h
      done) (.obj (Members.settled (done.reverse ++ fs.map Field.member))) r := by
  induction fs generalizing done with
  | nil => exact absurd rfl hne
  | cons f fs ih =>
    obtain ⟨-, hafter, hspaced⟩ := hs f (by simp)
    have hafter' := hspaced.2
    have hbody := hb f (by simp)
    have hread := hr f (by simp)
    have hskip := skipLayout_field (hs f (by simp))
    have hcolon (rest : Text) : skipLayout (f.after ++ CodePoint.ofChar ':' :: rest) =
        CodePoint.ofChar ':' :: rest := skipLayout_of_gap hafter (by simp [Solid]; decide)
    have hvalue := skipLayout_element hspaced (hsolid f (by simp))
    by_cases hfs : fs = []
    · subst hfs
      have hshape : commas ([f].map Field.spelled) ++ "\x7d" ++ r =
          f.spelled ++ (CodePoint.ofChar '\x7d' :: r) := by simp [Text.ofString]
      simp only [hshape, hskip] at h ⊢
      refine reads_members.mpr ⟨_, f.name, _, rfl, ⟨_, hbody, rfl⟩, _, hcolon _, f.element.value,
        f.element.after ++ CodePoint.ofChar '\x7d' :: r, ?_, .inl ⟨?_, ?_⟩⟩
      · rw [hvalue]
        exact hread _ (hafter'.ends (ends_cons (by decide) (by decide) _))
      · exact skipLayout_of_gap hafter' (by simp [Solid]; decide)
      · simp [Members.ofList_eq_settled, Field.member]
    · have hshape : commas ((f :: fs).map Field.spelled) ++ "\x7d" ++ r =
          f.spelled ++ CodePoint.ofChar ',' :: (commas (fs.map Field.spelled) ++ "\x7d" ++ r) := by
        rw [List.map_cons, List.append_assoc, commas_cons_append _ (by simpa using hfs),
          List.append_assoc]
      simp only [hshape, hskip] at h ⊢
      have hlen := length_skipLayout_le (commas (fs.map Field.spelled) ++ "\x7d" ++ r)
      have h' : (skipLayout (commas (fs.map Field.spelled) ++ "\x7d" ++ r)).length <
          start.length := by
        simp only [List.length_append, List.length_cons] at h hlen ⊢
        omega
      refine reads_members.mpr ⟨_, f.name, _, rfl, ⟨_, hbody, rfl⟩, _, hcolon _, f.element.value,
        f.element.after ++ CodePoint.ofChar ',' :: (commas (fs.map Field.spelled) ++ "\x7d" ++ r),
        ?_, .inr ⟨_, h', ?_, ?_⟩⟩
      · rw [hvalue]
        exact hread _ (hafter'.ends (ends_cons (by decide) (by decide) _))
      · exact skipLayout_of_gap hafter' (by simp [Solid]; decide)
      · have hrest := ih hfs (fun f hf => hs f (by simp [hf])) (fun f hf => hb f (by simp [hf]))
          (fun f hf => hsolid f (by simp [hf])) (fun f hf => hr f (by simp [hf]))
          ((f.name, f.element.value) :: done) h'
        simpa [Field.member] using hrest

theorem skipLayout_head {g w r : Text} {a : Char} (hg : Gap g) (hw : ∃ c t, w = c :: t ∧ Opening c)
    (ha : ¬ Opening (CodePoint.ofChar a)) :
    (skipLayout (g ++ (w ++ r))).head? ≠ some (CodePoint.ofChar a) := by
  obtain ⟨c, t, rfl, hc⟩ := hw
  have hsolid : Solid (c :: (t ++ r)) := by
    intro d hd
    cases hd
    exact not_isLayout_of_visible hc.visible.1
  rw [List.cons_append, skipLayout_of_gap hg hsolid]
  rintro h
  cases h
  exact ha hc

theorem exists_commas_append (t : Text) (ts : List Text) (r : Text) :
    ∃ rest, commas (t :: ts) ++ r = t ++ rest :=
  ⟨(ts.map (Text.ofString "," ++ ·)).flatten ++ r, by simp [commas, Text.join]⟩

theorem readable_of_scalar [StackRoom] {how : Reading} {w : Text} {v : Json}
    (hw : ∃ c t, w = c :: t ∧ c ≠ CodePoint.ofChar '"' ∧ c ≠ CodePoint.ofChar '[' ∧
      c ≠ CodePoint.ofChar '\x7b')
    (h : ∀ r, Numeral.Ends r → Reads (scalar how (w ++ r)) v r) (depth : Nat) :
    Readable how depth w v := by
  obtain ⟨c, t, rfl, hq, hb, ho⟩ := hw
  intro r hr
  rw [List.cons_append, value_scalar hq hb ho]
  exact h r hr

theorem readable_number [StackRoom] {how : Reading} {w : Text} {m : Numeral} {v : Json}
    (hm : Number w m) (hv : m.denoted? how = some v) (depth : Nat) : Readable how depth w v := by
  obtain ⟨c, t, rfl, hc⟩ := hm.head
  have hne :
      c ≠ CodePoint.ofChar '"' ∧ c ≠ CodePoint.ofChar '[' ∧ c ≠ CodePoint.ofChar '\x7b' := by
    rcases hc with rfl | hc
    · decide
    · exact ⟨CodePoint.ne_of_isDigit hc (by decide), CodePoint.ne_of_isDigit hc (by decide),
        CodePoint.ne_of_isDigit hc (by decide)⟩
  exact readable_of_scalar ⟨_, _, rfl, hne⟩
    (fun r hr => reads_scalar_number (Numeral.read?_of hm hr) hv) depth

theorem readable_emptyArray [StackRoom] {how : Reading} {depth : Nat} {g : Text} (hg : Gap g)
    (hd : depth < maxDepth) : Readable how depth ("[" ++ g ++ "]") (.arr []) := by
  intro r _
  have hshape : ("[" ++ g ++ "]" ++ r : Text) =
      CodePoint.ofChar '[' :: (g ++ CodePoint.ofChar ']' :: r) := by simp [Text.ofString]
  have hclose := skipLayout_of_gap hg (w := CodePoint.ofChar ']' :: r) (by simp [Solid]; decide)
  rw [hshape]
  exact reads_value_array.mpr ⟨hd, .inl ⟨hclose, rfl⟩⟩

theorem readable_array [StackRoom] {how : Reading} {depth n : Nat} {es : List Element}
    (hne : es ≠ []) (hs : ∀ e ∈ es, e.Spaced) (hval : ∀ e ∈ es, Value how n e.text e.value)
    (hr : ∀ e ∈ es, Readable how (depth + 1) e.text e.value) (hd : depth < maxDepth) :
    Readable how depth ("[" ++ commas (es.map Element.spelled) ++ "]")
      (.arr (es.map Element.value)) := by
  intro r _
  have hshape : ("[" ++ commas (es.map Element.spelled) ++ "]" ++ r : Text) =
      CodePoint.ofChar '[' :: (commas (es.map Element.spelled) ++ "]" ++ r) := by
    simp [Text.ofString]
  have hes := reads_elements_of hne hs (fun e he => (hval e he).solid) hr
    (CodePoint.ofChar '[' :: (commas (es.map Element.spelled) ++ "]" ++ r)) r []
    (length_lt_opened _ _ _ (Nat.le_refl _))
  rw [hshape]
  refine reads_value_array.mpr ⟨hd, .inr ⟨?_, _, hes⟩⟩
  cases es with
  | nil => exact absurd rfl hne
  | cons e es =>
    obtain ⟨rest, hrest⟩ := exists_commas_append e.spelled (es.map Element.spelled) ("]" ++ r)
    rw [List.map_cons, List.append_assoc, hrest, Element.spelled, List.append_assoc,
      List.append_assoc]
    exact skipLayout_head (hs e (by simp)).1 (hval e (by simp)).head not_opening_bracket

theorem readable_emptyObject [StackRoom] {how : Reading} {depth : Nat} {g : Text} (hg : Gap g)
    (hd : depth < maxDepth) : Readable how depth ("\x7b" ++ g ++ "\x7d") (.obj []) := by
  intro r _
  have hshape : ("\x7b" ++ g ++ "\x7d" ++ r : Text) =
      CodePoint.ofChar '\x7b' :: (g ++ CodePoint.ofChar '\x7d' :: r) := by simp [Text.ofString]
  have hclose := skipLayout_of_gap hg (w := CodePoint.ofChar '\x7d' :: r)
    (by simp [Solid]; decide)
  rw [hshape]
  exact reads_value_object.mpr ⟨hd, .inl ⟨hclose, rfl⟩⟩

theorem readable_object [StackRoom] {how : Reading} {depth n : Nat} {fs : List Field}
    (hne : fs ≠ []) (hs : ∀ f ∈ fs, f.Spaced) (hb : ∀ f ∈ fs, Body f.body f.name)
    (hval : ∀ f ∈ fs, Value how n f.element.text f.element.value)
    (hr : ∀ f ∈ fs, Readable how (depth + 1) f.element.text f.element.value)
    (hd : depth < maxDepth) :
    Readable how depth ("\x7b" ++ commas (fs.map Field.spelled) ++ "\x7d")
      (.obj (Members.settled (fs.map Field.member))) := by
  intro r _
  have hshape : ("\x7b" ++ commas (fs.map Field.spelled) ++ "\x7d" ++ r : Text) =
      CodePoint.ofChar '\x7b' :: (commas (fs.map Field.spelled) ++ "\x7d" ++ r) := by
    simp [Text.ofString]
  have hfs := reads_members_of hne hs hb (fun f hf => (hval f hf).solid) hr
    (CodePoint.ofChar '\x7b' :: (commas (fs.map Field.spelled) ++ "\x7d" ++ r)) r []
    (length_lt_opened _ _ _ (Nat.le_refl _))
  rw [hshape]
  refine reads_value_object.mpr ⟨hd, .inr ⟨?_, _, hfs⟩⟩
  cases fs with
  | nil => exact absurd rfl hne
  | cons f fs =>
    obtain ⟨rest, hrest⟩ := exists_commas_append f.spelled (fs.map Field.spelled) ("\x7d" ++ r)
    rw [List.map_cons, List.append_assoc, hrest, Field.spelled]
    simp only [List.append_assoc]
    exact skipLayout_head (hs f (by simp)).1 ⟨_, _, rfl, .inl (by decide)⟩ not_opening_brace

/-- Every derivation that is shallow enough is followed by the reader. -/
theorem readable_of_value [StackRoom] {how : Reading} {n : Nat} {w : Text} {v : Json}
    (h : Value how n w v) (depth : Nat) (hd : depth + n ≤ maxDepth) : Readable how depth w v := by
  induction h generalizing depth with
  | null =>
    exact readable_of_scalar ⟨_, _, rfl, by decide⟩ (fun r _ => reads_scalar_null how r) depth
  | yes => exact readable_of_scalar ⟨_, _, rfl, by decide⟩ (fun r _ => reads_scalar_yes how r) depth
  | no => exact readable_of_scalar ⟨_, _, rfl, by decide⟩ (fun r _ => reads_scalar_no how r) depth
  | @constant _ c hc =>
    have hw : ∃ d t, c.word = d :: t ∧ d ≠ CodePoint.ofChar '"' ∧ d ≠ CodePoint.ofChar '[' ∧
        d ≠ CodePoint.ofChar '\x7b' := by
      cases c <;> exact ⟨_, _, rfl, by decide⟩
    exact readable_of_scalar hw (fun r _ => reads_scalar_constant hc c r) depth
  | number hm hv => exact readable_number hm hv depth
  | string hw =>
    intro r _
    exact reads_value_string.mpr ⟨_, ⟨_, hw, by simp⟩, rfl⟩
  | emptyArray hg => exact readable_emptyArray hg (by omega)
  | array hne hs hval ih =>
    exact readable_array hne hs hval (fun e he => ih e he (depth + 1) (by omega)) (by omega)
  | emptyObject hg => exact readable_emptyObject hg (by omega)
  | object hne hs hb hval ih =>
    exact readable_object hne hs hb hval (fun f hf => ih f hf (depth + 1) (by omega)) (by omega)

theorem decode_eq_ok [StackRoom] {how : Reading} {t : Text} {v : Json} :
    decode how t = .ok v ↔
      (∃ c ∈ t.head?, c.val ≠ 0xFEFF) ∧
        ∃ r, Reads (value how 0 (skipLayout t)) v r ∧ skipLayout r = [] := by
  unfold decode
  split
  · simp
  · next c t =>
    split
    · next hc => simp [hc]
    · next hc =>
      simp only [List.head?_cons, Option.mem_def, Option.some.injEq, exists_eq_left', ne_eq, hc,
        not_false_iff, true_and]
      split
      · next he => simp [he]
      · next p hp =>
        have hreads (r : Text) : Reads (value how 0 (skipLayout (c :: t))) v r ↔
            p.value = v ∧ p.rest = r := by
          rw [hp, reads_ok]
        simp only [hreads, and_assoc, exists_and_left, exists_eq_left']
        split
        · next hend => simp [hend]
        · next hend => simp [hend]

/-- The texts that are read whole are the documents of the grammar. -/
theorem decode_eq_ok_iff [StackRoom] {how : Reading} {t : Text} {v : Json} :
    decode how t = .ok v ↔ Document how maxDepth t v := by
  rw [decode_eq_ok]
  constructor
  · rintro ⟨-, r, hread, hend⟩
    obtain ⟨w, hw, hskip⟩ := (sound how _).1 0 _ _ hread
    obtain ⟨g, hg, ht⟩ := exists_gap t
    obtain ⟨g', hg', hrest⟩ := exists_gap r
    rw [hend, List.append_nil] at hrest
    have htext : t = (⟨g, w, g', v⟩ : Element).spelled := by
      rw [ht, hskip, hrest, Element.spelled, List.append_assoc]
    rw [htext]
    exact .mk ⟨hg, hg'⟩ hw
  · rintro @⟨e, ⟨hbefore, hafter⟩, hval⟩
    have hskip : skipLayout e.spelled = e.text ++ e.after := by
      simpa using skipLayout_element ⟨hbefore, hafter⟩ hval.solid []
    have hend : skipLayout e.after = [] := by
      simpa using skipLayout_of_gap hafter (w := []) (by simp [Solid])
    refine ⟨?_, e.after, ?_, hend⟩
    · obtain ⟨c, t, ht, hc⟩ := hval.head
      rw [Element.spelled, ht]
      cases hb : e.before with
      | nil => exact ⟨c, rfl, by have := hc.visible; omega⟩
      | cons d g =>
        refine ⟨d, rfl, ?_⟩
        rcases hbefore d (by simp [hb]) with rfl | rfl | rfl | rfl <;> decide
    · rw [hskip]
      exact readable_of_value hval 0 (Nat.le_of_eq (Nat.zero_add _)) e.after
        (by simpa using hafter.ends ends_nil)

end Json

end JsonDesk
