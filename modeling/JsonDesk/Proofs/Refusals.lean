import JsonDesk.Proofs.Prefixes

/-!
Where the reader stops.  Behind a beginning of a document it is refused for what comes next: for a
string that cannot be read, or for something else where a comma is due.  The readers are followed
from the outermost one to the place, one lemma for each way that they can go.
-/

set_option autoImplicit false

namespace JsonDesk

namespace Json
open Grammar Text

variable {how : Reading} {depth n : Nat} {start t r s rest rest' : Text} {c : CodePoint}
  {hlt : t.length < start.length} {e : Fault} {u : Json} {name : Text}

/-! ### Readers that stop, and readers that go on -/

theorem value_string_error [StackRoom]
    (h : string (CodePoint.ofChar '"' :: t) t (Nat.lt_succ_self _) [] = .error e) :
    value how depth (CodePoint.ofChar '"' :: t) = .error e := by
  rw [value]
  simp [h]

theorem elements_error [StackRoom] {done : List Json} (h : value how (depth + 1) t = .error e) :
    elements how depth start t hlt done = .error e := by
  rw [elements]
  simp [h]

theorem elements_comma [StackRoom] {done : List Json}
    (hread : Reads (value how (depth + 1) t) u rest)
    (hs : skipLayout rest = c :: s) (hclose : c ≠ CodePoint.ofChar ']')
    (hcomma : c ≠ CodePoint.ofChar ',') :
    elements how depth start t hlt done = .error (.misread .comma (c :: s).length) := by
  obtain ⟨p, hp, rfl, rfl⟩ := hread
  rw [elements]
  simp only [hp]
  split
  · next h => simp [hs] at h
  · next h =>
    rw [hs] at h
    cases h
    rw [if_neg hclose, if_neg hcomma]

theorem elements_next [StackRoom] (hlt : t.length < start.length) (done : List Json)
    (hread : Reads (value how (depth + 1) t) u rest)
    (hs : skipLayout rest = CodePoint.ofChar ',' :: s) :
    ∃ h, elements how depth start t hlt done =
      elements how depth start (skipLayout s) h (u :: done) := by
  obtain ⟨p, hp, rfl, rfl⟩ := hread
  have hshort := p.shorter
  have hlen := length_skipLayout_le p.rest
  have hlen' := length_skipLayout_le s
  rw [hs, List.length_cons] at hlen
  refine ⟨by omega, ?_⟩
  rw [elements]
  simp only [hp]
  split
  · next h => simp [hs] at h
  · next h =>
    rw [hs] at h
    cases h
    simp [CodePoint.ofChar_inj]

theorem members_string_error [StackRoom] {done : Members}
    {hlt : (CodePoint.ofChar '"' :: t).length < start.length}
    (h : string (CodePoint.ofChar '"' :: t) t (Nat.lt_succ_self _) [] = .error e) :
    members how depth start (CodePoint.ofChar '"' :: t) hlt done = .error e := by
  rw [members]
  simp [h]

section Member
variable [StackRoom] {done : Members} {hlt : (CodePoint.ofChar '"' :: t).length < start.length}
  (hname : Reads (string (CodePoint.ofChar '"' :: t) t (Nat.lt_succ_self _) []) name rest)
  (hcolon : skipLayout rest = CodePoint.ofChar ':' :: s)
include hname hcolon

theorem members_value_error (h : value how (depth + 1) (skipLayout s) = .error e) :
    members how depth start (CodePoint.ofChar '"' :: t) hlt done = .error e := by
  obtain ⟨k, hk, rfl, rfl⟩ := hname
  rw [members]
  simp only [if_true, hk]
  split
  · next h => simp [hcolon] at h
  · next hs =>
    rw [hcolon] at hs
    cases hs
    simp [h]

theorem members_comma {s' : Text}
    (hread : Reads (value how (depth + 1) (skipLayout s)) u rest')
    (hs : skipLayout rest' = c :: s') (hclose : c ≠ CodePoint.ofChar '\x7d')
    (hcomma : c ≠ CodePoint.ofChar ',') :
    members how depth start (CodePoint.ofChar '"' :: t) hlt done =
      .error (.misread .comma (c :: s').length) := by
  obtain ⟨k, hk, rfl, rfl⟩ := hname
  obtain ⟨p, hp, rfl, rfl⟩ := hread
  rw [members]
  simp only [if_true, hk]
  split
  · next h => simp [hcolon] at h
  · next h =>
    rw [hcolon] at h
    cases h
    simp only [if_true, hp]
    split
    · next h => simp [hs] at h
    · next h =>
      rw [hs] at h
      cases h
      rw [if_neg hclose, if_neg hcomma]

theorem members_next {s' : Text} (done : Members)
    (hlt : (CodePoint.ofChar '"' :: t).length < start.length)
    (hread : Reads (value how (depth + 1) (skipLayout s)) u rest')
    (hs : skipLayout rest' = CodePoint.ofChar ',' :: s') :
    ∃ h, members how depth start (CodePoint.ofChar '"' :: t) hlt done =
      members how depth start (skipLayout s') h ((name, u) :: done) := by
  obtain ⟨k, hk, rfl, rfl⟩ := hname
  obtain ⟨p, hp, rfl, rfl⟩ := hread
  have hshort := k.shorter
  have hlen := length_skipLayout_le k.rest
  have hlen' := length_skipLayout_le s
  have hshort' := p.shorter
  have hlen'' := length_skipLayout_le p.rest
  have hlen''' := length_skipLayout_le s'
  rw [hcolon, List.length_cons] at hlen
  rw [hs, List.length_cons] at hlen''
  refine ⟨by omega, ?_⟩
  rw [members]
  simp only [if_true, hk]
  split
  · next h => simp [hcolon] at h
  · next h =>
    rw [hcolon] at h
    cases h
    simp only [if_true, hp]
    split
    · next h => simp [hs] at h
    · next h =>
      rw [hs] at h
      cases h
      simp [CodePoint.ofChar_inj]

end Member

/-! ### What stands first -/

/-- Behind the layout comes what a value or a name may start with. -/
def Starts (t : Text) : Prop := ∃ c s, skipLayout t = c :: s ∧ Opening c

theorem Starts.head_ne {a : Char} (h : Starts t) (ha : ¬ Opening (CodePoint.ofChar a)) :
    (skipLayout t).head? ≠ some (CodePoint.ofChar a) := by
  obtain ⟨c, s, hs, hc⟩ := h
  rw [hs]
  rintro h
  cases h
  exact ha hc

theorem skipLayout_opening {g : Text} (hg : Gap g) (hc : Opening c) (r : Text) :
    skipLayout (g ++ c :: r) = c :: r := by
  refine skipLayout_of_gap hg ?_
  intro d hd
  cases hd
  exact not_isLayout_of_visible hc.visible.1

theorem skipLayout_gap_comma {g : Text} (hg : Gap g) (r : Text) :
    skipLayout (g ++ CodePoint.ofChar ',' :: r) = CodePoint.ofChar ',' :: r :=
  skipLayout_of_gap hg (by simp [Solid]; decide)

theorem skipLayout_gap {g : Text} (hg : Gap g) (r : Text) : skipLayout (g ++ r) = skipLayout r :=
  List.dropWhile_append_of_pos fun c hc => isLayout_iff.mpr (hg c hc)

theorem starts_element {el : Element} (h : el.Derived how n) (r : Text) :
    Starts (el.spelled ++ r) := by
  obtain ⟨c, w, hw, hc⟩ := h.2.head
  rw [Starts, skipLayout_element h.1 h.2.solid, hw]
  exact ⟨c, _, rfl, hc⟩

theorem starts_field {f : Field} (h : f.Derived how n) (r : Text) : Starts (f.spelled ++ r) := by
  rw [Starts, skipLayout_field h.1]
  exact ⟨_, _, rfl, .inl (by decide)⟩

theorem starts_led {ts : List Text} (h : ∀ u ∈ ts, ∀ r, Starts (u ++ r)) (ht : Starts t) :
    Starts (led ',' ts ++ t) := by
  cases ts with
  | nil => exact ht
  | cons u ts =>
    rw [led_cons, List.append_assoc]
    exact h u (by simp) _

/-! ### Up to the place -/

/-- What is due cannot be read from the text, and the reader says why. -/
inductive Refused : Due → Text → Fault → Prop
  | string {t : Text} {e : Fault} :
    string (CodePoint.ofChar '"' :: t) t (Nat.lt_succ_self _) [] = .error e →
      Refused .string (CodePoint.ofChar '"' :: t) e
  | comma {t s : Text} {c : CodePoint} :
    Numeral.Ends t → skipLayout t = c :: s → c ∉ ofString ",]\x7d" →
      Refused .comma t (.misread .comma (c :: s).length)

theorem starts_of_leadsTo {p : Text} {d : Due} (h : LeadsTo how n p d) (hr : Refused d r e) :
    Starts (p ++ r) := by
  have hopener (b : Bracket) : Opening b.opener := by cases b <;> decide
  cases h with
  | start hg =>
    cases hr with
    | string => exact ⟨_, _, skipLayout_opening hg (by decide) _, by decide⟩
  | inElement hg | afterElement hg =>
    rw [List.append_assoc, List.cons_append]
    exact ⟨_, _, skipLayout_opening hg (hopener .square) _, hopener .square⟩
  | atName hg | inMember hg | afterMember hg =>
    rw [List.append_assoc, List.cons_append]
    exact ⟨_, _, skipLayout_opening hg (hopener .brace) _, hopener .brace⟩

theorem ends_comma (r : Text) : Numeral.Ends (CodePoint.ofChar ',' :: r) :=
  ends_cons (by decide) (by decide) r

theorem reads_element [StackRoom] {el : Element} (h : el.Derived how n) (hd : depth + n ≤ maxDepth)
    (hr : Numeral.Ends r) :
    Reads (value how depth (skipLayout (el.spelled ++ r))) el.value (el.after ++ r) := by
  rw [skipLayout_element h.1 h.2.solid]
  exact readable_of_value h.2 depth hd _ (h.1.2.ends hr)

theorem reads_opening {f : Field} (h : f.Derived how n) (r : Text) :
    ∃ t, skipLayout (f.opening ++ r) = CodePoint.ofChar '"' :: t ∧
      Reads (string (CodePoint.ofChar '"' :: t) t (Nat.lt_succ_self _) []) f.name
        (f.after ++ CodePoint.ofChar ':' :: r) ∧
      skipLayout (f.after ++ CodePoint.ofChar ':' :: r) = CodePoint.ofChar ':' :: r := by
  obtain ⟨⟨hbefore, hafter, -⟩, hbody, -⟩ := h
  have hshape : f.opening ++ r = f.before ++ CodePoint.ofChar '"' ::
      (f.body ++ "\"" ++ (f.after ++ CodePoint.ofChar ':' :: r)) := by
    simp [Field.opening, Text.ofString]
  rw [hshape, skipLayout_opening hbefore (by decide)]
  exact ⟨_, rfl, reads_string.mpr ⟨_, hbody, rfl⟩,
    skipLayout_of_gap hafter (by simp [Solid]; decide)⟩

theorem elements_led_error [StackRoom] {es : List Element} (hes : ∀ el ∈ es, el.Derived how n)
    (hd : depth + 1 + n ≤ maxDepth)
    (h : ∀ hlt done, elements how depth start (skipLayout t) hlt done = .error e) (hlt) (done) :
    elements how depth start (skipLayout (led ',' (es.map Element.spelled) ++ t)) hlt done =
      .error e := by
  induction es generalizing done with
  | nil => exact h _ _
  | cons el es ih =>
    have hel := hes el (by simp)
    have hshape : led ',' ((el :: es).map Element.spelled) ++ t = el.spelled ++
        CodePoint.ofChar ',' :: (led ',' (es.map Element.spelled) ++ t) := by simp
    simp only [hshape] at hlt ⊢
    obtain ⟨hlt', hnext⟩ := elements_next hlt done
      (reads_element hel hd (ends_comma _)) (skipLayout_gap_comma hel.1.2 _)
    rw [hnext]
    exact ih (fun el hel => hes el (by simp [hel])) hlt' _

theorem members_led_error [StackRoom] {fs : List Field} (hfs : ∀ f ∈ fs, f.Derived how n)
    (hd : depth + 1 + n ≤ maxDepth)
    (h : ∀ hlt done, members how depth start (skipLayout t) hlt done = .error e) (hlt) (done) :
    members how depth start (skipLayout (led ',' (fs.map Field.spelled) ++ t)) hlt done =
      .error e := by
  induction fs generalizing done with
  | nil => exact h _ _
  | cons f fs ih =>
    have hf := hfs f (by simp)
    have hshape : led ',' ((f :: fs).map Field.spelled) ++ t = f.opening ++ (f.element.spelled ++
        CodePoint.ofChar ',' :: (led ',' (fs.map Field.spelled) ++ t)) := by
      simp [Field.spelled_eq]
    obtain ⟨t', hskip, hname, hcolon⟩ := reads_opening hf (f.element.spelled ++
        CodePoint.ofChar ',' :: (led ',' (fs.map Field.spelled) ++ t))
    simp only [hshape, hskip] at hlt ⊢
    obtain ⟨hlt', hnext⟩ := members_next hname hcolon done hlt
      (reads_element ⟨hf.1.2.2, hf.2.2⟩ hd (ends_comma _)) (skipLayout_gap_comma hf.1.2.2.2 _)
    rw [hnext]
    exact ih (fun f hf => hfs f (by simp [hf])) hlt' _

theorem value_array_error [StackRoom] {g : Text} {es : List Element} (hg : Gap g)
    (hes : ∀ el ∈ es, el.Derived how n) (hd : depth + (n + 1) ≤ maxDepth) (ht : Starts t)
    (h : ∀ start hlt done, elements how depth start (skipLayout t) hlt done = .error e) :
    value how depth
      (skipLayout (g ++ CodePoint.ofChar '[' :: (led ',' (es.map Element.spelled) ++ t))) =
        .error e := by
  have hdepth : depth < maxDepth := by omega
  have hstarts : Starts (led ',' (es.map Element.spelled) ++ t) :=
    starts_led (by simpa using fun el hel => starts_element (hes el hel)) ht
  obtain ⟨hlt, hvalue⟩ := value_array_elements hdepth (hstarts.head_ne not_opening_bracket)
  rw [skipLayout_opening hg (by decide), hvalue]
  exact elements_led_error hes (by omega) (h _) _ _

theorem value_object_error [StackRoom] {g : Text} {fs : List Field} (hg : Gap g)
    (hfs : ∀ f ∈ fs, f.Derived how n) (hd : depth + (n + 1) ≤ maxDepth) (ht : Starts t)
    (h : ∀ start hlt done, members how depth start (skipLayout t) hlt done = .error e) :
    value how depth
      (skipLayout (g ++ CodePoint.ofChar '\x7b' :: (led ',' (fs.map Field.spelled) ++ t))) =
        .error e := by
  have hdepth : depth < maxDepth := by omega
  have hstarts : Starts (led ',' (fs.map Field.spelled) ++ t) :=
    starts_led (by simpa using fun f hf => starts_field (hfs f hf)) ht
  obtain ⟨hlt, hvalue⟩ := value_object_members hdepth (hstarts.head_ne not_opening_brace)
  rw [skipLayout_opening hg (by decide), hvalue]
  exact members_led_error hfs (by omega) (h _) _ _

theorem ne_of_refused_comma (hc : c ∉ ofString ",]\x7d") : c ≠ CodePoint.ofChar ',' ∧
    c ≠ CodePoint.ofChar ']' ∧ c ≠ CodePoint.ofChar '\x7d' := by
  refine ⟨?_, ?_, ?_⟩ <;> rintro rfl <;> exact hc (by decide)

/-- Behind a beginning of a document the reader stops at what it refuses there. -/
theorem value_refused [StackRoom] {p : Text} {d : Due} (h : LeadsTo how n p d) (hr : Refused d r e)
    (depth : Nat) (hd : depth + n ≤ maxDepth) :
    value how depth (skipLayout (p ++ r)) = .error e := by
  induction h generalizing depth with
  | start hg =>
    cases hr with
    | string he =>
      rw [skipLayout_opening hg (by decide)]
      exact value_string_error he
  | inElement hg hes hp ih =>
    rw [List.append_assoc, List.cons_append, List.append_assoc]
    exact value_array_error hg hes hd (starts_of_leadsTo hp hr)
      fun _ _ _ => elements_error (ih hr (depth + 1) (by omega))
  | afterElement hg hes hel =>
    rw [List.append_assoc, List.cons_append, List.append_assoc]
    refine value_array_error hg hes hd (starts_element hel _) fun _ _ _ => ?_
    cases hr with
    | comma hends hs hc =>
      obtain ⟨hcomma, hclose, -⟩ := ne_of_refused_comma hc
      exact elements_comma (reads_element hel (by omega) hends)
        ((skipLayout_gap hel.1.2 _).trans hs) hclose hcomma
  | @atName n g g' fs hg hfs hg' =>
    rw [List.append_assoc, List.cons_append, List.append_assoc]
    cases hr with
    | @string t _ he =>
      have hskip : skipLayout (g' ++ CodePoint.ofChar '"' :: t) = CodePoint.ofChar '"' :: t :=
        skipLayout_opening hg' (by decide) t
      refine value_object_error hg hfs hd ⟨_, _, hskip, by decide⟩ fun _ hlt _ => ?_
      simp only [hskip] at hlt ⊢
      exact members_string_error he
  | @inMember n g p fs f d hg hfs hf hp ih =>
    obtain ⟨t', hskip, hname, hcolon⟩ := reads_opening hf (p ++ r)
    rw [List.append_assoc, List.cons_append, List.append_assoc, List.append_assoc]
    refine value_object_error hg hfs hd ⟨_, _, hskip, by decide⟩ fun _ hlt _ => ?_
    simp only [hskip] at hlt ⊢
    exact members_value_error hname hcolon (ih hr (depth + 1) (by omega))
  | @afterMember n g fs f hg hfs hf =>
    obtain ⟨t', hskip, hname, hcolon⟩ := reads_opening hf (f.element.spelled ++ r)
    rw [List.append_assoc, List.cons_append, List.append_assoc, Field.spelled_eq,
      List.append_assoc]
    refine value_object_error hg hfs hd ⟨_, _, hskip, by decide⟩ fun _ hlt _ => ?_
    simp only [hskip] at hlt ⊢
    cases hr with
    | comma hends hs hc =>
      obtain ⟨hcomma, -, hclose⟩ := ne_of_refused_comma hc
      exact members_comma hname hcolon (reads_element ⟨hf.1.2.2, hf.2.2⟩ (by omega) hends)
        ((skipLayout_gap hf.1.2.2.2 _).trans hs) hclose hcomma

theorem decode_error_of_starts [StackRoom] (h : Starts t)
    (he : value how 0 (skipLayout t) = .error e) :
    decode how t = .error e := by
  obtain ⟨c, s, hs, hc⟩ := h
  obtain ⟨g, hg, ht⟩ := exists_gap t
  rw [hs] at ht
  have hmark : ∀ d ∈ t.head?, d.val ≠ 0xFEFF := by
    rw [ht]
    cases g with
    | nil =>
      rintro d ⟨⟩
      have := hc.visible
      omega
    | cons d g =>
      rintro d ⟨⟩
      rcases hg d (by simp) with rfl | rfl | rfl | rfl <;> decide
  cases t with
  | nil => simp at ht
  | cons d t =>
    rw [decode, if_neg (hmark d rfl)]
    simp only [he]

theorem decode_refused [StackRoom] {p : Text} {d : Due} (h : LeadsTo how maxDepth p d)
    (hr : Refused d r e) :
    decode how (p ++ r) = .error e :=
  decode_error_of_starts (starts_of_leadsTo h hr) (value_refused h hr 0 (by omega))

end Json

end JsonDesk
