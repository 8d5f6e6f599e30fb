import JsonDesk.Proofs.Alarms
import JsonDesk.Proofs.Writer

/-!
Documents that are spread over lines.  Every piece of a container, an item or a member, starts on a
line of its own behind a margin, and so does the closing bracket; a comma stands right behind the
piece that it follows.  What holds of some line of a document is told from this, piece by piece.
-/

set_option autoImplicit false

namespace JsonDesk

namespace Text

def HasLine (P : Text → Prop) (t : Text) : Prop := ∃ l ∈ t.lines, P l

variable {P : Text → Prop} {t u : Text}

theorem hasLine_newline : HasLine P (t ++ CodePoint.ofChar '\n' :: u) ↔ HasLine P t ∨ HasLine P u := by
  have hlines : lines (t ++ CodePoint.ofChar '\n' :: u) = lines t ++ lines u := splitOn_append t u
  simp only [HasLine, hlines, List.mem_append, or_and_right, exists_or]

theorem hasLine_unbroken (h : CodePoint.ofChar '\n' ∉ t) : HasLine P t ↔ P t := by
  have hlines : lines t = [t] := splitOn_of_not_mem h
  simp [HasLine, hlines]

end Text

namespace Json
open Grammar Text

def margin (n depth : Nat) : Text := List.replicate (n * depth) ' '

def spread (n depth : Nat) (b : Bracket) (es : List Text) : Text :=
  b.opener :: commas (es.map fun e => CodePoint.ofChar '\n' :: (margin n (depth + 1) ++ e)) ++
    CodePoint.ofChar '\n' :: (margin n depth ++ [b.closer])

/-- The style of documents with an indent. -/
abbrev indentedStyle (n : Nat) (ascii : Bool) : Style := documentStyle (.indented n) ascii

def memberPiece (n : Nat) (ascii : Bool) (depth : Nat) (m : Text × Json) : Text :=
  writtenString ascii m.1 ++ (": " ++ text (indentedStyle n ascii) depth m.2)

variable {n depth : Nat} {ascii : Bool} {v : Json} {vs : List Json} {ms : Members}

theorem lineBreak_indented (n depth : Nat) :
    (Layout.indented n).lineBreak depth = CodePoint.ofChar '\n' :: margin n depth := rfl

theorem itemTexts_indented (n depth : Nat) (ascii : Bool) (v : Json) (vs : List Json) :
    (CodePoint.ofChar '\n' :: margin n depth) ++ text (indentedStyle n ascii) depth v ++
        itemTexts (indentedStyle n ascii) depth vs =
      commas ((v :: vs).map fun v =>
        CodePoint.ofChar '\n' :: (margin n depth ++ text (indentedStyle n ascii) depth v)) := by
  induction vs generalizing v with
  | nil => simp [itemTexts]
  | cons u vs ih =>
    rw [List.map_cons, commas_cons _ (by simp), ← ih u, itemTexts]
    simp [indentedStyle, documentStyle, Layout.separator, lineBreak_indented, Text.ofString]

theorem memberTexts_indented (n depth : Nat) (ascii : Bool) (m : Text × Json) (ms : Members) :
    (CodePoint.ofChar '\n' :: margin n depth) ++ memberPiece n ascii depth m ++
        memberTexts (indentedStyle n ascii) depth ms =
      commas ((m :: ms).map fun m =>
        CodePoint.ofChar '\n' :: (margin n depth ++ memberPiece n ascii depth m)) := by
  induction ms generalizing m with
  | nil => simp [memberTexts]
  | cons k ms ih =>
    rw [List.map_cons, commas_cons _ (by simp), ← ih k, memberTexts]
    simp [indentedStyle, documentStyle, Layout.separator, lineBreak_indented, Text.ofString,
      memberPiece, Layout.colon]

theorem text_arr (h : vs ≠ []) : text (indentedStyle n ascii) depth (.arr vs) =
    spread n depth .square (vs.map (text (indentedStyle n ascii) (depth + 1))) := by
  obtain ⟨v, vs, rfl⟩ := List.exists_cons_of_ne_nil h
  have hitems := itemTexts_indented n (depth + 1) ascii v vs
  rw [spread, List.map_map]
  simp only [Function.comp_def, ← hitems]
  simp [text, indentedStyle, documentStyle, lineBreak_indented, Text.ofString, Bracket.opener,
    Bracket.closer]

theorem text_obj (h : ms ≠ []) : text (indentedStyle n ascii) depth (.obj ms) =
    spread n depth .brace (ms.map (memberPiece n ascii (depth + 1))) := by
  obtain ⟨m, ms, rfl⟩ := List.exists_cons_of_ne_nil h
  have hmembers := memberTexts_indented n (depth + 1) ascii m ms
  rw [spread, List.map_map]
  simp only [Function.comp_def, ← hmembers]
  simp [text, indentedStyle, documentStyle, lineBreak_indented, Text.ofString, Bracket.opener,
    Bracket.closer, memberPiece, Layout.colon]

/-- Induction over the text of a value with finite numbers, as it is spread over lines. -/
theorem text_tree {n : Nat} {ascii : Bool} {motive : Nat → Json → Text → Prop}
    (word : ∀ depth v w, (∀ s, v ≠ .str s) → (∀ vs, ¬ Inside (.arr vs) v) → w ≠ [] →
      (∀ c ∈ w, Atomic c) → motive depth v w)
    (string : ∀ depth s, motive depth (.str s) (writtenString ascii s))
    (emptyArr : ∀ depth, motive depth (.arr []) [Bracket.square.opener, Bracket.square.closer])
    (emptyObj : ∀ depth, motive depth (.obj []) [Bracket.brace.opener, Bracket.brace.closer])
    (arr : ∀ depth vs, vs ≠ [] →
      (∀ v ∈ vs, motive (depth + 1) v (text (indentedStyle n ascii) (depth + 1) v)) →
        motive depth (.arr vs)
          (spread n depth .square (vs.map (text (indentedStyle n ascii) (depth + 1)))))
    (obj : ∀ depth ms, ms ≠ [] →
      (∀ m ∈ ms, motive (depth + 1) m.2 (text (indentedStyle n ascii) (depth + 1) m.2)) →
        motive depth (.obj ms)
          (spread n depth .brace (ms.map (memberPiece n ascii (depth + 1)))))
    (v : Json) (hv : ∀ d, Inside (.float d) v → d.isFinite = true) (depth : Nat) :
    motive depth v (text (indentedStyle n ascii) depth v) := by
  induction v using tree generalizing depth with
  | null => exact word _ _ "null" (by simp) (by simp) (by decide) (by decide)
  | bool b =>
    cases b with
    | true => exact word _ _ "true" (by simp) (by simp) (by decide) (by decide)
    | false => exact word _ _ "false" (by simp) (by simp) (by decide) (by decide)
  | int i =>
    obtain ⟨c, t, hhead, -⟩ := (number_ofInt i).head
    exact word _ _ _ (by simp) (by simp) (by simp [text, hhead]) (number_ofInt i).atomic
  | float d =>
    have hfinite := hv d .self
    obtain ⟨m, hm, -⟩ := Double.number_written hfinite
    obtain ⟨c, t, hhead, -⟩ := hm.head
    rw [text]
    simp only [indentedStyle, documentStyle, writtenDouble_of_finite hfinite]
    exact word _ _ _ (by simp) (by simp) (by simp [hhead]) hm.atomic
  | str s => exact string depth s
  | arr vs ih =>
    by_cases hne : vs = []
    · subst hne
      exact emptyArr depth
    · rw [text_arr hne]
      exact arr depth vs hne fun v hmem => ih v hmem (fun d hd => hv d (.item hmem hd)) _
  | obj ms ih =>
    by_cases hne : ms = []
    · subst hne
      exact emptyObj depth
    · rw [text_obj hne]
      exact obj depth ms hne fun m hmem => ih m hmem (fun d hd => hv d (.member hmem hd)) _

/-! ### How it flows -/

theorem quoted_written (ascii : Bool) (s : Text) : Quoted (s.flatMap (writtenPoint ascii)) := by
  cases ascii with
  | true => exact (body_ascii s).quoted
  | false => exact (body_raw s).quoted

theorem fluent_writtenString (ascii : Bool) (s : Text) : Fluent (writtenString ascii s) :=
  fluent_string (quoted_written ascii s)

theorem fluent_spread (b : Bracket) {es : List Text} (hne : es ≠ []) (h : ∀ e ∈ es, Fluent e) :
    Fluent (spread n depth b es) := by
  have hgap (depth : Nat) : Gap (CodePoint.ofChar '\n' :: margin n depth) :=
    gap_lineBreak (.indented n) depth
  have hpieces : Fluent (commas (es.map fun e =>
      CodePoint.ofChar '\n' :: (margin n (depth + 1) ++ e))) := by
    refine fluent_commas (by simpa using hne) fun t ht => ?_
    obtain ⟨e, he, rfl⟩ := List.mem_map.mp ht
    simpa using (h e he).between (hgap (depth + 1)) Gap.nil
  have hcontainer := fluent_container b fun opened =>
    (hpieces.between Gap.nil (hgap depth)) ⟨_, opened⟩ (ready_opener b)
  simpa [spread] using hcontainer

theorem fluent_memberPiece {m : Text × Json}
    (h : Fluent (text (indentedStyle n ascii) depth m.2)) :
    Fluent (memberPiece n ascii depth m) := by
  intro s hs
  obtain ⟨c, -, hname⟩ := fluent_writtenString ascii m.1 s hs
  obtain ⟨d, hd, hvalue⟩ := h.between (gap_blanks 1) Gap.nil ⟨_, s.opened⟩ ready_colon
  refine ⟨d, hd, ?_⟩
  have hflow := (hname.append (flow_plain (c := ':') (by decide) _)).append hvalue
  simpa [memberPiece, Text.ofString] using hflow

theorem fluent_text (hv : ∀ d, Inside (.float d) v → d.isFinite = true) (depth : Nat) :
    Fluent (text (indentedStyle n ascii) depth v) := by
  refine text_tree (motive := fun _ _ w => Fluent w) ?word ?string ?emptyArr ?emptyObj
    ?arr ?obj v hv depth
  case word => exact fun _ _ _ _ _ hne hatomic => fluent_atomic hne hatomic
  case string => exact fun _ s => fluent_writtenString ascii s
  case emptyArr => exact fun _ => fluent_empty .square Gap.nil
  case emptyObj => exact fun _ => fluent_empty .brace Gap.nil
  case arr =>
    intro depth vs hne ih
    refine fluent_spread .square (by simpa using hne) fun e he => ?_
    obtain ⟨v, hmem, rfl⟩ := List.mem_map.mp he
    exact ih v hmem
  case obj =>
    intro depth ms hne ih
    refine fluent_spread .brace (by simpa using hne) fun e he => ?_
    obtain ⟨m, hmem, rfl⟩ := List.mem_map.mp he
    exact fluent_memberPiece (ih m hmem)

/-! ### Its lines -/

section

variable {P : Text → Prop} {t lead tail : Text} {es : List Text}

theorem hasLine_pieces (m : Text) (t : Text) (hne : es ≠ []) :
    HasLine P (t ++ commas (es.map fun e => CodePoint.ofChar '\n' :: (m ++ e))) ↔
      HasLine P t ∨ (∃ e ∈ es.dropLast, HasLine P (m ++ (e ++ ","))) ∨
        ∃ e ∈ es.getLast?, HasLine P (m ++ e) := by
  induction es generalizing t with
  | nil => exact absurd rfl hne
  | cons e es ih =>
    by_cases hes : es = []
    · subst hes
      simp [hasLine_newline]
    · have hlast : (e :: es).getLast? = es.getLast? := by
        rw [List.getLast?_cons_of_ne_nil hes]
      have hshape (r : Text) : t ++ ((CodePoint.ofChar '\n' :: (m ++ e)) ++ "," ++ r) =
          t ++ CodePoint.ofChar '\n' :: ((m ++ (e ++ ",")) ++ r) := by simp
      rw [List.map_cons, commas_cons _ (by simpa using hes), hshape, hasLine_newline, ih _ hes,
        List.dropLast_cons_of_ne_nil hes, hlast]
      simp only [List.mem_cons, or_and_right, exists_or, exists_eq_left, or_assoc]

theorem newline_not_mem_margin (n depth : Nat) : CodePoint.ofChar '\n' ∉ margin n depth := fun h =>
  absurd (List.eq_of_mem_replicate h) (by decide)

theorem hasLine_spread {α : Type} (hlead : CodePoint.ofChar '\n' ∉ lead)
    (htail : CodePoint.ofChar '\n' ∉ tail) (b : Bracket) {xs : List α} (hne : xs ≠ [])
    (f : α → Text) :
    HasLine P (lead ++ (spread n depth b (xs.map f) ++ tail)) ↔
      P (lead ++ [b.opener]) ∨
        ((∃ x ∈ xs.dropLast, HasLine P (margin n (depth + 1) ++ (f x ++ ","))) ∨
          ∃ x ∈ xs.getLast?, HasLine P (margin n (depth + 1) ++ f x)) ∨
        P (margin n depth ++ b.closer :: tail) := by
  have hfirst : CodePoint.ofChar '\n' ∉ lead ++ [b.opener] := by
    cases b <;> simpa [hlead] using by decide
  have hmargin := newline_not_mem_margin n depth
  have hlast : CodePoint.ofChar '\n' ∉ margin n depth ++ b.closer :: tail := by
    cases b <;> simpa [hmargin, htail] using by decide
  have hshape : lead ++ (spread n depth b (xs.map f) ++ tail) =
      ((lead ++ [b.opener]) ++ commas ((xs.map f).map fun e =>
        CodePoint.ofChar '\n' :: (margin n (depth + 1) ++ e))) ++
      CodePoint.ofChar '\n' :: (margin n depth ++ b.closer :: tail) := by simp [spread]
  have hes : xs.map f ≠ [] := by simpa using hne
  rw [hshape, hasLine_newline, hasLine_pieces _ _ hes, hasLine_unbroken hfirst,
    hasLine_unbroken hlast, or_assoc, ← List.map_dropLast, List.getLast?_map]
  simp only [List.mem_map, Option.mem_map, exists_exists_and_eq_and]

end

end Json

end JsonDesk
