import JsonDesk.Proofs.Completeness
import JsonDesk.Proofs.Escapes
import JsonDesk.Proofs.NumberText
import JsonDesk.Proofs.Tokens
import JsonDesk.Proofs.Trees

/-!
What the writer writes, the grammar derives.  The writer keeps its text in reverse; read forwards,
the text of a container is made of the texts of what is inside it, and so is its derivation.
-/

set_option autoImplicit false

namespace JsonDesk

namespace Json
open Grammar

mutual

/-- The text of a value, read forwards. -/
def text (style : Style) (depth : Nat) : Json → Text
  | null => style.null
  | bool b => if b then style.yes else style.no
  | int i => Text.ofInt i
  | float d => style.double d
  | str t => style.string t
  | arr [] => "[]"
  | arr (v :: vs) =>
    "[" ++ (style.layout.lineBreak (depth + 1) ++ text style (depth + 1) v ++
      itemTexts style (depth + 1) vs ++ style.layout.lineBreak depth) ++ "]"
  | obj [] => "\x7b\x7d"
  | obj ((name, v) :: ms) =>
    "\x7b" ++ (style.layout.lineBreak (depth + 1) ++ style.string name ++ style.layout.colon ++
      text style (depth + 1) v ++ memberTexts style (depth + 1) ms ++
        style.layout.lineBreak depth) ++ "\x7d"

def itemTexts (style : Style) (depth : Nat) : List Json → Text
  | [] => []
  | v :: vs => style.layout.separator depth ++ text style depth v ++ itemTexts style depth vs

def memberTexts (style : Style) (depth : Nat) : List (Text × Json) → Text
  | [] => []
  | (name, v) :: ms =>
    style.layout.separator depth ++ style.string name ++ style.layout.colon ++
      text style depth v ++ memberTexts style depth ms

end

theorem push_eq (done t : Text) : push done t = t.reverse ++ done := by simp [push]

mutual

theorem pushValue_eq (style : Style) (depth : Nat) (done : Text) :
    ∀ v, pushValue style depth done v = (text style depth v).reverse ++ done
  | null => by simp [pushValue, text, push_eq]
  | bool b => by simp [pushValue, text, push_eq]
  | int i => by simp [pushValue, text, push_eq]
  | float d => by simp [pushValue, text, push_eq]
  | str t => by simp [pushValue, text, push_eq]
  | arr [] => by simp [pushValue, text, push_eq]
  | arr (v :: vs) => by
    simp [pushValue, text, push_eq, pushValue_eq style _ _ v, pushItems_eq style _ _ vs,
      Text.ofString]
  | obj [] => by simp [pushValue, text, push_eq]
  | obj ((name, v) :: ms) => by
    simp [pushValue, text, push_eq, pushValue_eq style _ _ v, pushMembers_eq style _ _ ms,
      Text.ofString]

theorem pushItems_eq (style : Style) (depth : Nat) (done : Text) :
    ∀ vs, pushItems style depth done vs = (itemTexts style depth vs).reverse ++ done
  | [] => rfl
  | v :: vs => by
    simp [pushItems, itemTexts, push_eq, pushValue_eq style _ _ v, pushItems_eq style _ _ vs]

theorem pushMembers_eq (style : Style) (depth : Nat) (done : Text) :
    ∀ ms, pushMembers style depth done ms = (memberTexts style depth ms).reverse ++ done
  | [] => rfl
  | (name, v) :: ms => by
    simp [pushMembers, memberTexts, push_eq, pushValue_eq style _ _ v, pushMembers_eq style _ _ ms]

end

theorem write_eq (style : Style) (v : Json) : write style v = text style 0 v := by
  rw [write, pushValue_eq, List.append_nil, List.reverse_reverse]

/-! ### What is written is derivable -/

theorem gap_blanks (n : Nat) : Gap (List.replicate n (CodePoint.ofChar ' ')) :=
  fun _ hc => .inl (List.eq_of_mem_replicate hc)

theorem gap_lineBreak (layout : Layout) (depth : Nat) : Gap (layout.lineBreak depth) := by
  cases layout with
  | compact => exact Gap.nil
  | spaced => exact Gap.nil
  | indented width =>
    intro c hc
    rcases List.mem_cons.mp hc with rfl | hc
    · exact .inr (.inr (.inl rfl))
    · exact gap_blanks _ c hc

theorem exists_separator (layout : Layout) (depth : Nat) :
    ∃ g, Gap g ∧ layout.separator depth = "," ++ g := by
  cases layout with
  | compact => exact ⟨[], Gap.nil, rfl⟩
  | spaced => exact ⟨" ", gap_blanks 1, rfl⟩
  | indented width => exact ⟨_, gap_lineBreak (.indented width) depth, rfl⟩

theorem exists_colon (layout : Layout) : ∃ g, Gap g ∧ layout.colon = ":" ++ g := by
  cases layout with
  | compact => exact ⟨[], Gap.nil, rfl⟩
  | spaced => exact ⟨" ", gap_blanks 1, rfl⟩
  | indented _ => exact ⟨" ", gap_blanks 1, rfl⟩

theorem exists_elements {how : Reading} {n depth : Nat} {style : Style} {g : Json → Json}
    (v : Json) {vs : List Json}
    (h : ∀ u ∈ v :: vs, Value how n (text style depth u) (g u)) {a : Text} (ha : Gap a) {b : Text}
    (hb : Gap b) :
    ∃ es : List Element, es ≠ [] ∧ (∀ e ∈ es, e.Spaced) ∧ (∀ e ∈ es, Value how n e.text e.value) ∧
      es.map Element.value = (v :: vs).map g ∧
      commas (es.map Element.spelled) =
        b ++ text style depth v ++ itemTexts style depth vs ++ a := by
  induction vs generalizing v b with
  | nil =>
    refine ⟨[⟨b, text style depth v, a, g v⟩], by simp, by simp [Element.Spaced, ha, hb],
      by simpa using h, rfl, ?_⟩
    simp [Element.spelled, itemTexts]
  | cons u vs ih =>
    obtain ⟨s, hs, hsep⟩ := exists_separator style.layout depth
    obtain ⟨es, hne, hspaced, hval, hmap, htext⟩ := ih u (fun w hw => h w (by simp [hw])) hs
    refine ⟨⟨b, text style depth v, [], g v⟩ :: es, by simp, ?_, ?_, ?_, ?_⟩
    · simpa [Element.Spaced, hb, Gap.nil] using hspaced
    · simpa [h v (by simp)] using hval
    · simpa using hmap
    · rw [List.map_cons, commas_cons _ (by simpa using hne), htext, itemTexts, hsep]
      simp [Element.spelled]

theorem exists_fields {how : Reading} {n depth : Nat} {layout : Layout} {ascii : Bool}
    {f : Text → Text} {g : Json → Json} (hf : ∀ t, Body (t.flatMap (writtenPoint ascii)) (f t))
    (m : Text × Json) {ms : Members}
    (h : ∀ k ∈ m :: ms, Value how n (text (documentStyle layout ascii) depth k.2) (g k.2))
    {a : Text} (ha : Gap a) {b : Text} (hb : Gap b) :
    ∃ fs : List Field, fs ≠ [] ∧ (∀ x ∈ fs, x.Spaced) ∧ (∀ x ∈ fs, Body x.body x.name) ∧
      (∀ x ∈ fs, Value how n x.element.text x.element.value) ∧
      fs.map Field.member = (m :: ms).map (fun k => (f k.1, g k.2)) ∧
      commas (fs.map Field.spelled) = b ++ writtenString ascii m.1 ++ layout.colon ++
        text (documentStyle layout ascii) depth m.2 ++
          memberTexts (documentStyle layout ascii) depth ms ++ a := by
  obtain ⟨c, hc, hcolon⟩ := exists_colon layout
  induction ms generalizing m b with
  | nil =>
    refine ⟨[⟨b, m.1.flatMap (writtenPoint ascii), [], f m.1,
      ⟨c, text (documentStyle layout ascii) depth m.2, a, g m.2⟩⟩], by simp,
      by simp [Field.Spaced, Element.Spaced, ha, hb, hc, Gap.nil], by simpa using hf m.1,
      by simpa using h, rfl, ?_⟩
    simp [Field.spelled, Element.spelled, memberTexts, writtenString, hcolon, Text.ofString]
  | cons k ms ih =>
    obtain ⟨s, hs, hsep⟩ := exists_separator layout depth
    obtain ⟨fs, hne, hspaced, hbody, hval, hmap, htext⟩ := ih k (fun w hw => h w (by simp [hw])) hs
    have hlayout : (documentStyle layout ascii).layout = layout := rfl
    have hstring : (documentStyle layout ascii).string = writtenString ascii := rfl
    refine ⟨⟨b, m.1.flatMap (writtenPoint ascii), [], f m.1,
      ⟨c, text (documentStyle layout ascii) depth m.2, [], g m.2⟩⟩ :: fs, by simp, ?_, ?_, ?_, ?_,
      ?_⟩
    · simpa [Field.Spaced, Element.Spaced, hb, hc, Gap.nil] using hspaced
    · simpa [hf m.1] using hbody
    · simpa [h m (by simp)] using hval
    · simpa [Field.member] using hmap
    · rw [List.map_cons, commas_cons _ (by simpa using hne), htext, memberTexts, hlayout, hstring,
        hsep]
      simp [Field.spelled, Element.spelled, writtenString, hcolon, Text.ofString]

/-- The numbers inside can be read again: integers are short enough, and doubles are finite. -/
def Denotable (v : Json) : Prop :=
  (∀ i, Inside (.int i) v → i.natAbs < 10 ^ maxDigits) ∧
    ∀ d, Inside (.float d) v → d.isFinite = true

theorem Denotable.inside {u v : Json} (h : Denotable v) (hu : Inside u v) : Denotable u :=
  ⟨fun i hi => h.1 i (hi.trans hu), fun d hd => h.2 d (hd.trans hu)⟩

theorem value_int (how : Reading) {i : Int} (h : i.natAbs < 10 ^ maxDigits) (n : Nat) :
    Value how n (Text.ofInt i) (.int i) := by
  refine .number (number_ofInt i) ?_
  have hlen : (Text.ofNat i.natAbs).length ≤ maxDigits := Text.length_ofNat_le (by decide) h
  simp [Numeral.denoted?, Numeral.isInteger, hlen, Numeral.toInt_ofInt]

theorem writtenDouble_of_finite {d : Double} (h : d.isFinite = true) :
    writtenDouble d = d.written := by
  cases d with
  | finite => rfl
  | infinite => cases h
  | nan => cases h

theorem value_double (how : Reading) {d : Double} (h : d.isFinite = true) (n : Nat) :
    Value how n (writtenDouble d) (.float d) := by
  obtain ⟨m, hm, hinteger, hread⟩ := Double.number_written h
  rw [writtenDouble_of_finite h]
  exact .number hm (by simp [Numeral.denoted?, hinteger, hread])

/-- The text of a value spells it, every text inside being spelled as the style spells texts. -/
theorem value_text (how : Reading) (layout : Layout) {ascii : Bool} {f : Text → Text}
    (hf : ∀ t, Body (t.flatMap (writtenPoint ascii)) (f t)) {v : Json} (hv : Denotable v)
    (depth : Nat) :
    Value how v.levels (text (documentStyle layout ascii) depth v) (v.mapText f) := by
  induction v using tree generalizing depth with
  | null => exact .null
  | bool b =>
    cases b with
    | true => exact .yes
    | false => exact .no
  | int i => exact value_int how (hv.1 i .self) _
  | float d => exact value_double how (hv.2 d .self) _
  | str t =>
    have h : Value how 0 ("\"" ++ t.flatMap (writtenPoint ascii) ++ "\"") (.str (f t)) :=
      .string (hf t)
    exact h
  | arr vs ih =>
    rw [mapText, mapTextItems_eq]
    cases vs with
    | nil => exact .emptyArray Gap.nil
    | cons v vs =>
      have hval : ∀ u ∈ v :: vs, Value how (itemLevels (v :: vs))
          (text (documentStyle layout ascii) (depth + 1) u) (mapText f u) := fun u hu =>
        (ih u hu (hv.inside (.item hu .self)) (depth + 1)).mono (levels_le_itemLevels hu)
      obtain ⟨es, hne, hspaced, hes, hmap, htext⟩ := exists_elements v hval
        (gap_lineBreak layout depth) (gap_lineBreak layout (depth + 1))
      have harr := Value.array hne hspaced hes
      rw [htext, hmap] at harr
      exact harr
  | obj ms ih =>
    rw [mapText, mapTextMembers_eq]
    cases ms with
    | nil => exact .emptyObject Gap.nil
    | cons m ms =>
      have hval : ∀ k ∈ m :: ms, Value how (memberLevels (m :: ms))
          (text (documentStyle layout ascii) (depth + 1) k.2) (mapText f k.2) := fun k hk =>
        (ih k hk (hv.inside (.member hk .self)) (depth + 1)).mono (levels_le_memberLevels hk)
      obtain ⟨fs, hne, hspaced, hbody, hfs, hmap, htext⟩ := exists_fields hf m hval
        (gap_lineBreak layout depth) (gap_lineBreak layout (depth + 1))
      have hobj := Value.object hne hspaced hbody hfs
      rw [htext, hmap] at hobj
      exact hobj

/-! ### Surrogates in what is written -/

/-- Without surrogates a text can always be saved. -/
def Clean (t : Text) : Prop := ∀ c ∈ t, c.isSurrogate = false

theorem Clean.append {t u : Text} (ht : Clean t) (hu : Clean u) : Clean (t ++ u) := fun c hc =>
  (List.mem_append.mp hc).elim (ht c) (hu c)

theorem clean_nil : Clean [] := by simp [Clean]

theorem clean_ofString (s : String) : Clean (Text.ofString s) := by
  intro c hc
  obtain ⟨a, -, rfl⟩ := List.mem_map.mp hc
  exact CodePoint.not_isSurrogate_ofChar a

theorem clean_of_ascii {t : Text} (h : ∀ c ∈ t, c.val < 0x80) : Clean t := by
  intro c hc
  have := h c hc
  simp only [CodePoint.isSurrogate, decide_eq_false_iff_not]
  omega

theorem clean_gap {g : Text} (h : Gap g) : Clean g := by
  refine clean_of_ascii fun c hc => ?_
  rcases h c hc with rfl | rfl | rfl | rfl <;> decide

theorem clean_atomic {t : Text} (h : ∀ c ∈ t, Atomic c) : Clean t := by
  refine clean_of_ascii fun c hc => ?_
  rcases h c hc with hd | hd
  · have := CodePoint.isDigit_iff.mp hd
    omega
  · have all : ∀ d ∈ Text.ofString "+-.EINaefilnrstuy", d.val < 0x80 := by decide
    exact all c hd

theorem val_ofDigit_lt {d : Nat} (h : d < 16) : (CodePoint.ofDigit d).val < 0x80 := by
  have all : ∀ e ∈ List.range 16, (CodePoint.ofDigit e).val < 0x80 := by decide
  exact all d (List.mem_range.mpr h)

theorem clean_hex (w n : Nat) : Clean (Text.hex w n) := by
  induction w with
  | zero => exact clean_nil
  | succ w ih =>
    refine Clean.append (t := [_]) (clean_of_ascii fun c hc => ?_) ih
    rw [List.mem_singleton.mp hc]
    exact val_ofDigit_lt (Nat.mod_lt _ (by decide))

theorem clean_escapeUnit (n : Nat) : Clean (escapeUnit n) := (clean_ofString _).append (clean_hex 4 n)

theorem clean_writtenPoint (c : CodePoint) : Clean (writtenPoint true c) := by
  rcases writtenPoint_cases true c with ⟨d, hd, hw⟩ | ⟨hw, -, -, -, hlt⟩ | ⟨hw, -⟩ | ⟨-, -, hw⟩
  · rw [hw]
    refine (clean_ofString _).append (clean_of_ascii fun e he => ?_)
    rw [List.mem_singleton.mp he]
    cases hd <;> decide
  · rw [hw]
    refine clean_of_ascii fun e he => ?_
    rw [List.mem_singleton.mp he]
    exact Nat.lt_trans (hlt rfl) (by decide)
  · rw [hw]
    exact clean_escapeUnit _
  · rw [hw]
    exact (clean_escapeUnit _).append (clean_escapeUnit _)

theorem clean_writtenString (t : Text) : Clean (writtenString true t) := by
  have hbody : Clean (t.flatMap (writtenPoint true)) := by
    intro c hc
    obtain ⟨d, -, hd⟩ := List.mem_flatMap.mp hc
    exact clean_writtenPoint d c hd
  exact (clean_ofString "\"").append (hbody.append (clean_ofString "\""))

theorem clean_separator (layout : Layout) (depth : Nat) : Clean (layout.separator depth) := by
  obtain ⟨g, hg, h⟩ := exists_separator layout depth
  rw [h]
  exact (clean_ofString _).append (clean_gap hg)

theorem clean_colon (layout : Layout) : Clean layout.colon := by
  obtain ⟨g, hg, h⟩ := exists_colon layout
  rw [h]
  exact (clean_ofString _).append (clean_gap hg)

theorem clean_sign (negative : Bool) : Clean (Double.sign negative) := by
  cases negative with
  | false => exact clean_nil
  | true => exact clean_ofString _

theorem clean_written (d : Double) : Clean d.written := by
  cases d with
  | finite s m e h =>
    obtain ⟨n, hn, -⟩ := Double.number_written (d := .finite s m e h) rfl
    exact clean_atomic hn.atomic
  | infinite negative => exact (clean_sign negative).append (clean_ofString _)
  | nan => exact clean_ofString _

theorem clean_writtenDouble (d : Double) : Clean (writtenDouble d) := by
  cases d with
  | finite s m e h => exact clean_written (.finite s m e h)
  | infinite negative => exact (clean_sign negative).append (clean_ofString _)
  | nan => exact clean_ofString _

/-- What is no container is spelled without surrogates. -/
structure CleanStyle (style : Style) : Prop where
  null : Clean style.null
  yes : Clean style.yes
  no : Clean style.no
  double : ∀ d, Clean (style.double d)
  string : ∀ t, Clean (style.string t)

theorem cleanStyle_document (layout : Layout) : CleanStyle (documentStyle layout true) :=
  ⟨clean_ofString _, clean_ofString _, clean_ofString _, clean_writtenDouble, clean_writtenString⟩

section

variable {style : Style} {depth : Nat}

theorem clean_itemTexts {vs : List Json} (h : ∀ v ∈ vs, Clean (text style depth v)) :
    Clean (itemTexts style depth vs) := by
  induction vs with
  | nil => exact clean_nil
  | cons v vs ih =>
    have hvs := ih fun u hu => h u (by simp [hu])
    exact ((clean_separator _ _).append (h v (by simp))).append hvs

theorem clean_memberTexts (hstyle : CleanStyle style) {ms : Members}
    (h : ∀ m ∈ ms, Clean (text style depth m.2)) : Clean (memberTexts style depth ms) := by
  induction ms with
  | nil => exact clean_nil
  | cons m ms ih =>
    have hms := ih fun k hk => h k (by simp [hk])
    exact ((((clean_separator _ _).append (hstyle.string m.1)).append (clean_colon _)).append
      (h m (by simp))).append hms

theorem clean_text (hstyle : CleanStyle style) (v : Json) (depth : Nat) :
    Clean (text style depth v) := by
  have hbreak (depth : Nat) : Clean (style.layout.lineBreak depth) :=
    clean_gap (gap_lineBreak _ _)
  induction v using tree generalizing depth with
  | null => exact hstyle.null
  | bool b =>
    cases b with
    | true => exact hstyle.yes
    | false => exact hstyle.no
  | int i => exact clean_atomic (number_ofInt i).atomic
  | float d => exact hstyle.double d
  | str t => exact hstyle.string t
  | arr vs ih =>
    have hin : ∀ v ∈ vs, Clean (text style (depth + 1) v) := fun v h => ih v h _
    cases vs with
    | nil => exact clean_ofString _
    | cons v vs =>
      have hitems : Clean (itemTexts style (depth + 1) vs) :=
        clean_itemTexts fun u hu => hin u (by simp [hu])
      have hinner := ((hbreak (depth + 1)).append (hin v (by simp))).append hitems
      exact ((clean_ofString _).append (hinner.append (hbreak _))).append (clean_ofString _)
  | obj ms ih =>
    have hin : ∀ m ∈ ms, Clean (text style (depth + 1) m.2) := fun m h => ih m h _
    cases ms with
    | nil => exact clean_ofString _
    | cons m ms =>
      have hmembers : Clean (memberTexts style (depth + 1) ms) :=
        clean_memberTexts hstyle fun k hk => hin k (by simp [hk])
      have hname := ((hbreak (depth + 1)).append (hstyle.string m.1)).append (clean_colon style.layout)
      have hinner := (hname.append (hin m (by simp))).append hmembers
      exact ((clean_ofString _).append (hinner.append (hbreak _))).append (clean_ofString _)

end

theorem clean_write (layout : Layout) (v : Json) :
    Clean (v.write (documentStyle layout true)) := by
  rw [write_eq]
  exact clean_text (cleanStyle_document layout) v 0

end Json

end JsonDesk
