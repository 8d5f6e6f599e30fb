import JsonDesk.Proofs.Indentation
import JsonDesk.Proofs.Trimming
import Mathlib.Data.List.Induction

/-!
Lines that look like a property name without its colon: one quoted text, with neither a double quote
nor a colon in it, and nothing else.  In a document that is spread over lines such a line is the
last item of an array, since every other item has a comma behind it and every name a colon; so the
check that looks for a missing colon finds one just if some array ends with such a text.
-/

set_option autoImplicit false

namespace JsonDesk

namespace Text

variable {a b l s t : Text} {c : CodePoint}

theorem contains_singleton : contains t [c] = true ↔ c ∈ t := by
  induction t with
  | nil => simp [contains]
  | cons d t ih => simp [contains, startsWith, ih]

/-- Stripped, the line is a quoted name, and no colon is in it. -/
def Lone (l : Text) : Prop :=
  l.strip.isQuotedName = true ∧ CodePoint.ofChar ':' ∉ l.strip

def FirstLone (ls : List Text) (k : Nat) : Prop :=
  ∃ before l after, ls = before ++ l :: after ∧ Lone l ∧ (∀ m ∈ before, ¬ Lone m) ∧
    k = before.length + 1

/-- The first code point that is no white space is a colon. -/
def ColonFirst (l : Text) : Prop := l.find? solid = some (CodePoint.ofChar ':')

/-- A text with something in it, but with no double quote and no colon. -/
def Bare (s : Text) : Prop :=
  s ≠ [] ∧ CodePoint.ofChar '"' ∉ s ∧ CodePoint.ofChar ':' ∉ s

theorem isQuotedName_iff : t.isQuotedName = true ↔ ∃ w : Text,
    t = CodePoint.ofChar '"' :: (w ++ [CodePoint.ofChar '"']) ∧ w ≠ [] ∧
      CodePoint.ofChar '"' ∉ w := by
  constructor
  · intro h
    cases t with
    | nil => cases h
    | cons c t =>
      simp only [isQuotedName, Bool.and_eq_true, decide_eq_true_eq] at h
      obtain ⟨rfl, h⟩ := h
      split at h
      · next d d' name hreverse =>
        simp only [Bool.and_eq_true, decide_eq_true_eq, bne_iff_ne, List.all_eq_true] at h
        obtain ⟨⟨rfl, hd⟩, hname⟩ := h
        have ht := congrArg List.reverse hreverse
        rw [List.reverse_reverse, List.reverse_cons] at ht
        refine ⟨(d' :: name).reverse, by rw [ht], by simp, ?_⟩
        rw [List.mem_reverse, List.mem_cons, not_or]
        exact ⟨Ne.symm hd, fun hmem => hname _ hmem rfl⟩
      · cases h
  · rintro ⟨w, rfl, hne, hquote⟩
    cases hr : w.reverse with
    | nil => exact absurd (List.reverse_eq_nil_iff.mp hr) hne
    | cons d' name =>
      have hmem : CodePoint.ofChar '"' ∉ d' :: name := by rwa [← hr, List.mem_reverse]
      rw [List.mem_cons, not_or] at hmem
      simp only [isQuotedName, List.reverse_append, List.reverse_singleton, List.singleton_append,
        hr, decide_true, Bool.true_and, Bool.and_eq_true, bne_iff_ne, List.all_eq_true]
      exact ⟨Ne.symm hmem.1, fun d hd heq => hmem.2 (heq ▸ hd)⟩

theorem Lone.first (h : Lone l) : l.find? solid = some (CodePoint.ofChar '"') := by
  obtain ⟨w, hw, -⟩ := isQuotedName_iff.mp h.1
  exact find?_solid_of_strip hw

theorem Lone.last (h : Lone l) : l.reverse.find? solid = some (CodePoint.ofChar '"') := by
  obtain ⟨w, hw, -⟩ := isQuotedName_iff.mp h.1
  refine find?_solid_of_getLast_strip ?_
  rw [hw, ← List.cons_append, List.getLast?_append]
  rfl

theorem not_lone_of_colon (h : CodePoint.ofChar ':' ∈ l) : ¬ Lone l :=
  fun hl => hl.2 (mem_strip (by decide) h)

theorem not_lone_of_last (hc : c.isBlank = false) (hquote : c ≠ CodePoint.ofChar '"') (l : Text) :
    ¬ Lone (l ++ [c]) := by
  intro h
  have hlast := h.last
  simp [solid, hc, hquote] at hlast

theorem not_lone_of_head (ha : (∀ d ∈ a, d.isBlank = true) ∨ CodePoint.ofChar ':' ∈ a)
    (hc : c.isBlank = false) (hquote : c ≠ CodePoint.ofChar '"') (l : Text) :
    ¬ Lone (a ++ c :: l) := by
  intro h
  rcases ha with ha | ha
  · have hfirst := h.first
    have hnone : a.find? solid = none := by
      simpa [solid] using ha
    simp [hnone, solid, hc, hquote] at hfirst
  · exact not_lone_of_colon (List.mem_append_left _ ha) h

end Text

namespace Json
open Grammar Text

/-! ### Texts that are written -/

theorem exists_of_mem_hex {w n : Nat} {c : CodePoint} (h : c ∈ Text.hex w n) :
    ∃ d < 16, c = CodePoint.ofDigit d := by
  induction w with
  | zero => cases h
  | succ w ih =>
    rcases List.mem_cons.mp h with rfl | h
    · exact ⟨_, Nat.mod_lt _ (by decide), rfl⟩
    · exact ih h

theorem not_mem_escapeUnit {c : CodePoint} (n : Nat)
    (hc : c = CodePoint.ofChar '"' ∨ c = CodePoint.ofChar ':') : c ∉ escapeUnit n := by
  have all : ∀ d ∈ List.range 16, CodePoint.ofDigit d ≠ CodePoint.ofChar '"' ∧
      CodePoint.ofDigit d ≠ CodePoint.ofChar ':' := by decide
  intro hmem
  rcases List.mem_append.mp hmem with hmem | hmem
  · rcases hc with rfl | rfl <;> exact absurd hmem (by decide)
  · obtain ⟨d, hd, rfl⟩ := exists_of_mem_hex hmem
    obtain ⟨hquote, hcolon⟩ := all d (List.mem_range.mpr hd)
    exact hc.elim hquote hcolon

theorem mem_writtenPoint {ascii : Bool} {c d : CodePoint}
    (hc : c = CodePoint.ofChar '"' ∨ c = CodePoint.ofChar ':') :
    c ∈ writtenPoint ascii d ↔ d = c := by
  constructor
  · intro hmem
    rcases writtenPoint_cases ascii d with ⟨e, he, hw⟩ | ⟨hw, -⟩ | ⟨hw, -⟩ | ⟨-, -, hw⟩
    · rw [hw] at hmem
      rcases hc with rfl | rfl <;> cases he <;> first | rfl | exact absurd hmem (by decide)
    · rw [hw] at hmem
      exact (List.mem_singleton.mp hmem).symm
    · rw [hw] at hmem
      exact absurd hmem (not_mem_escapeUnit _ hc)
    · rw [hw] at hmem
      rcases List.mem_append.mp hmem with hmem | hmem <;>
        exact absurd hmem (not_mem_escapeUnit _ hc)
  · rintro rfl
    rcases hc with rfl | rfl <;> cases ascii <;> decide

theorem mem_written {ascii : Bool} {c : CodePoint} {s : Text}
    (hc : c = CodePoint.ofChar '"' ∨ c = CodePoint.ofChar ':') :
    c ∈ s.flatMap (writtenPoint ascii) ↔ c ∈ s := by
  simp only [List.mem_flatMap, mem_writtenPoint hc, exists_eq_right]

theorem written_eq_nil {ascii : Bool} {s : Text} : s.flatMap (writtenPoint ascii) = [] ↔ s = [] := by
  cases s with
  | nil => simp
  | cons c s =>
    rcases writtenPoint_cases ascii c with ⟨e, -, hw⟩ | ⟨hw, -⟩ | ⟨hw, -⟩ | ⟨-, -, hw⟩ <;>
      simp [hw, escapeUnit, Text.ofString]

theorem bare_written (ascii : Bool) {s : Text} : Bare (s.flatMap (writtenPoint ascii)) ↔ Bare s := by
  rw [Bare, Bare, ne_eq, written_eq_nil, mem_written (.inl rfl), mem_written (.inr rfl)]

theorem lone_writtenString {ascii : Bool} {a s : Text} (ha : ∀ c ∈ a, c.isBlank = true) :
    Lone (a ++ writtenString ascii s) ↔ Bare s := by
  have hstrip : strip (a ++ writtenString ascii s) = writtenString ascii s := by
    have hlast : ∀ c ∈ (writtenString ascii s).getLast?, c.isBlank = false := by
      rw [writtenString, ← List.cons_append, List.getLast?_append]
      rintro c ⟨⟩
      decide
    have hright := stripRight_append (b := []) (by simp) hlast
    rw [List.append_nil] at hright
    exact (strip_append ha (by decide) _).trans hright
  rw [Lone, hstrip, ← bare_written ascii, Bare, isQuotedName_iff]
  constructor
  · rintro ⟨⟨w, hw, hne, hquote⟩, hcolon⟩
    obtain rfl : s.flatMap (writtenPoint ascii) = w := by
      simpa [writtenString, Text.ofString] using hw
    refine ⟨hne, hquote, fun hmem => hcolon ?_⟩
    simp [writtenString, hmem]
  · rintro ⟨hne, hquote, hcolon⟩
    have hmark : CodePoint.ofChar ':' ≠ CodePoint.ofChar '"' := by decide
    exact ⟨⟨_, rfl, hne, hquote⟩, by simp [writtenString, Text.ofString, hmark, hcolon]⟩

/-! ### Arrays that end with a bare text -/

/-- Some array inside ends with a bare text. -/
def EndsBare (v : Json) : Prop :=
  ∃ vs s, Inside (.arr vs) v ∧ vs.getLast? = some (.str s) ∧ Bare s

theorem endsBare_arr {vs : List Json} : EndsBare (.arr vs) ↔
    (∃ s, vs.getLast? = some (.str s) ∧ Bare s) ∨ ∃ v ∈ vs, EndsBare v := by
  constructor
  · rintro ⟨us, s, hin, hlast, hs⟩
    rcases inside_arr.mp hin with heq | ⟨v, hv, hin⟩
    · cases heq
      exact .inl ⟨s, hlast, hs⟩
    · exact .inr ⟨v, hv, us, s, hin, hlast, hs⟩
  · rintro (⟨s, hlast, hs⟩ | ⟨v, hv, us, s, hin, hlast, hs⟩)
    · exact ⟨vs, s, .self, hlast, hs⟩
    · exact ⟨us, s, .item hv hin, hlast, hs⟩

theorem endsBare_obj {ms : Members} : EndsBare (.obj ms) ↔ ∃ m ∈ ms, EndsBare m.2 := by
  constructor
  · rintro ⟨us, s, hin, hlast, hs⟩
    rcases inside_obj.mp hin with heq | ⟨m, hm, hin⟩
    · cases heq
    · exact ⟨m, hm, us, s, hin, hlast, hs⟩
  · rintro ⟨m, hm, us, s, hin, hlast, hs⟩
    exact ⟨us, s, .member hm hin, hlast, hs⟩

theorem exists_mem_iff {α : Type} {P : α → Prop} (xs : List α) :
    (∃ x ∈ xs, P x) ↔ (∃ x ∈ xs.dropLast, P x) ∨ ∃ x ∈ xs.getLast?, P x := by
  induction xs using List.reverseRecOn with
  | nil => simp
  | append_singleton xs x => simp [or_and_right, exists_or]

/-! ### The lines of a document -/

variable {n depth : Nat} {ascii : Bool} {v : Json}

theorem blank_margin (n depth : Nat) : ∀ c ∈ margin n depth, c.isBlank = true := by
  intro c hc
  rw [List.eq_of_mem_replicate hc]
  decide

theorem newline_not_mem_word {w : Text} (h : ∀ c ∈ w, Atomic c) : CodePoint.ofChar '\n' ∉ w :=
  fun hmem => absurd (h _ hmem) (by decide)

theorem newline_not_mem_writtenString (ascii : Bool) (s : Text) :
    CodePoint.ofChar '\n' ∉ writtenString ascii s := by
  have hbody := (quoted_written ascii s).no_newline
  simp [writtenString, Text.ofString, hbody]

/-- Where the text of a value stands on a line: behind white space, or behind a name with its colon;
what comes behind it is neither white space nor a double quote. -/
structure Beside (lead tail : Text) : Prop where
  unbroken : CodePoint.ofChar '\n' ∉ lead
  front : (∀ c ∈ lead, c.isBlank = true) ∨ CodePoint.ofChar ':' ∈ lead
  back : ∀ c ∈ tail, c.isBlank = false ∧ c ≠ CodePoint.ofChar '"'

namespace Beside

variable {lead tail : Text}

theorem tail_unbroken (h : Beside lead tail) : CodePoint.ofChar '\n' ∉ tail := fun hmem =>
  absurd (h.back _ hmem).1 (by decide)

theorem margin (n depth : Nat) (h : ∀ c ∈ tail, c.isBlank = false ∧ c ≠ CodePoint.ofChar '"') :
    Beside (margin n depth) tail :=
  ⟨newline_not_mem_margin n depth, .inl (blank_margin n depth), h⟩

theorem name (n depth : Nat) (ascii : Bool) (s : Text)
    (h : ∀ c ∈ tail, c.isBlank = false ∧ c ≠ CodePoint.ofChar '"') :
    Beside (Json.margin n depth ++ (writtenString ascii s ++ ": ")) tail := by
  have hmargin := newline_not_mem_margin n depth
  have hname := newline_not_mem_writtenString ascii s
  exact ⟨by simp [hmargin, hname, Text.ofString], .inr (by simp [Text.ofString]), h⟩

end Beside

/-- There is a lone line among those of a value: its own one, if it is a bare text and stands alone,
or one inside. -/
def LoneAt (lead tail : Text) (v : Json) : Prop :=
  ((∀ c ∈ lead, c.isBlank = true) ∧ tail = [] ∧ ∃ s, v = .str s ∧ Bare s) ∨ EndsBare v

section

variable {lead tail w r : Text} {c : CodePoint}

theorem loneAt_iff (hstr : ∀ s, v ≠ .str s) : LoneAt lead tail v ↔ EndsBare v := by
  simp [LoneAt, hstr]

theorem hasLine_lone_line (h : Beside lead tail) (hw : CodePoint.ofChar '\n' ∉ c :: r)
    (hc : c.isBlank = false) (hquote : c ≠ CodePoint.ofChar '"') (hstr : ∀ s, v ≠ .str s)
    (hends : ¬ EndsBare v) :
    HasLine Lone (lead ++ (c :: r ++ tail)) ↔ LoneAt lead tail v := by
  have hunbroken : CodePoint.ofChar '\n' ∉ lead ++ (c :: r ++ tail) := by
    simp only [List.mem_append, h.unbroken, h.tail_unbroken, hw, or_self, not_false_eq_true]
  have hlone := not_lone_of_head h.front hc hquote (r ++ tail)
  rw [hasLine_unbroken hunbroken, loneAt_iff hstr]
  exact iff_of_false hlone hends

theorem hasLine_lone_writtenString (h : Beside lead tail) (s : Text) :
    HasLine Lone (lead ++ (writtenString ascii s ++ tail)) ↔ LoneAt lead tail (.str s) := by
  have hname := newline_not_mem_writtenString ascii s
  have hends : ¬ EndsBare (.str s) := by simp [EndsBare]
  rw [hasLine_unbroken (by simp [h.unbroken, h.tail_unbroken, hname]), LoneAt]
  simp only [hends, or_false, str.injEq, exists_eq_left']
  rcases h.front with hblank | hcolon
  · cases tail using List.reverseRecOn with
    | nil => simp only [List.append_nil, lone_writtenString hblank, true_and, iff_and_self]
             exact fun _ => hblank
    | append_singleton t c =>
      obtain ⟨hc, hquote⟩ := h.back c (by simp)
      have hlone := not_lone_of_last hc hquote (lead ++ (writtenString ascii s ++ t))
      simp only [List.append_assoc] at hlone
      simp [hlone]
  · have hmark : ¬ ∀ c ∈ lead, c.isBlank = true := fun hblank =>
      absurd (hblank _ hcolon) (by decide)
    simp only [hmark, false_and, iff_false]
    exact not_lone_of_colon (List.mem_append_left _ hcolon)

theorem hasLine_lone_spread {α : Type} (h : Beside lead tail) (b : Bracket) {xs : List α}
    (hne : xs ≠ []) (f : α → Text) :
    HasLine Lone (lead ++ (spread n depth b (xs.map f) ++ tail)) ↔
      (∃ x ∈ xs.dropLast, HasLine Lone (margin n (depth + 1) ++ (f x ++ ","))) ∨
        ∃ x ∈ xs.getLast?, HasLine Lone (margin n (depth + 1) ++ f x) := by
  have hfirst : ¬ Lone (lead ++ [b.opener]) :=
    not_lone_of_last (by cases b <;> decide) (by cases b <;> decide) lead
  have hlast : ¬ Lone (margin n depth ++ b.closer :: tail) :=
    not_lone_of_head (.inl (blank_margin n depth)) (by cases b <;> decide)
      (by cases b <;> decide) tail
  rw [hasLine_spread h.unbroken h.tail_unbroken b hne]
  simp only [hfirst, hlast, false_or, or_false]

theorem comma_back : ∀ c ∈ Text.ofString ",", c.isBlank = false ∧ c ≠ CodePoint.ofChar '"' := by
  decide

theorem nothing_back : ∀ c ∈ ([] : Text), c.isBlank = false ∧ c ≠ CodePoint.ofChar '"' := by
  simp

/-- Beside anything the text has a lone line just if there is one among those of the value. -/
def TellsLone (v : Json) (w : Text) : Prop :=
  ∀ lead tail, Beside lead tail → (HasLine Lone (lead ++ (w ++ tail)) ↔ LoneAt lead tail v)

theorem tellsLone_arr {vs : List Json} (hne : vs ≠ [])
    (ih : ∀ v ∈ vs, TellsLone v (text (indentedStyle n ascii) (depth + 1) v)) :
    TellsLone (.arr vs)
      (spread n depth .square (vs.map (text (indentedStyle n ascii) (depth + 1)))) := by
  intro lead tail h
  -- an item with a comma behind it is lone inside only, the last one may be lone itself
  have hitem : ∀ v ∈ vs.dropLast, (HasLine Lone (margin n (depth + 1) ++
      (text (indentedStyle n ascii) (depth + 1) v ++ ",")) ↔ EndsBare v) := by
    intro v hmem
    rw [ih v (List.dropLast_subset vs hmem) _ _ (.margin n (depth + 1) comma_back), LoneAt]
    simp [Text.ofString]
  have hlast : ∀ v ∈ vs.getLast?, (HasLine Lone (margin n (depth + 1) ++
      text (indentedStyle n ascii) (depth + 1) v) ↔ (∃ s, v = .str s ∧ Bare s) ∨ EndsBare v) := by
    intro v hmem
    have hv := ih v (List.mem_of_getLast? hmem) _ [] (.margin n (depth + 1) nothing_back)
    rwa [List.append_nil, LoneAt, and_iff_right (blank_margin n (depth + 1)), and_iff_right rfl]
      at hv
  rw [hasLine_lone_spread h .square hne, loneAt_iff (by simp), endsBare_arr, exists_mem_iff vs]
  simp only [exists_congr fun v => and_congr_right (hitem v),
    exists_congr fun v => and_congr_right (hlast v), and_or_left, exists_or]
  rw [or_left_comm]
  simp [Option.mem_def]

theorem tellsLone_obj {ms : List (Text × Json)} (hne : ms ≠ [])
    (ih : ∀ m ∈ ms, TellsLone m.2 (text (indentedStyle n ascii) (depth + 1) m.2)) :
    TellsLone (.obj ms)
      (spread n depth .brace (ms.map (memberPiece n ascii (depth + 1)))) := by
  intro lead tail h
  have hpiece : ∀ m ∈ ms, ∀ tail : Text, (∀ c ∈ tail, c.isBlank = false ∧ c ≠ CodePoint.ofChar '"') →
      (HasLine Lone (margin n (depth + 1) ++ (memberPiece n ascii (depth + 1) m ++ tail)) ↔
        EndsBare m.2) := by
    intro m hmem tail htail
    have hm := ih m hmem _ tail (.name n (depth + 1) ascii m.1 htail)
    have hfront : ¬ ∀ c ∈ margin n (depth + 1) ++ (writtenString ascii m.1 ++ Text.ofString ": "),
        c.isBlank = true := fun hblank => absurd (hblank ':' (by simp [Text.ofString])) (by decide)
    rw [LoneAt] at hm
    simp only [hfront, false_and, false_or] at hm
    rw [← hm, memberPiece]
    simp only [List.append_assoc]
  rw [hasLine_lone_spread h .brace hne, loneAt_iff (by simp), endsBare_obj, exists_mem_iff ms]
  refine or_congr (exists_congr fun m => and_congr_right fun hmem => ?_)
    (exists_congr fun m => and_congr_right fun hmem => ?_)
  · exact hpiece m (List.dropLast_subset ms hmem) _ comma_back
  · have hm := hpiece m (List.mem_of_getLast? hmem) [] nothing_back
    rwa [List.append_nil] at hm

end

theorem hasLine_lone (n : Nat) (ascii : Bool) (hv : ∀ d, Inside (.float d) v → d.isFinite = true)
    (depth : Nat) {lead tail : Text} (h : Beside lead tail) :
    HasLine Lone (lead ++ (text (indentedStyle n ascii) depth v ++ tail)) ↔
      LoneAt lead tail v := by
  refine text_tree (motive := fun _ v w => TellsLone v w)
    ?word ?string ?emptyArr ?emptyObj ?arr ?obj v hv depth lead tail h
  case word =>
    intro depth v w hstr harr hne hatomic lead tail h
    obtain ⟨c, r, rfl⟩ := List.exists_cons_of_ne_nil hne
    have hc := hatomic c (by simp)
    exact hasLine_lone_line h (newline_not_mem_word hatomic) hc.plain.1 (hc.ne (by decide)) hstr
      fun ⟨vs, s, hin, _⟩ => harr vs hin
  case string => exact fun _ s lead tail h => hasLine_lone_writtenString h s
  case emptyArr =>
    intro depth lead tail h
    exact hasLine_lone_line h (by decide) (by decide) (by decide) (by simp) (by simp [endsBare_arr])
  case emptyObj =>
    intro depth lead tail h
    exact hasLine_lone_line h (by decide) (by decide) (by decide) (by simp) (by simp [endsBare_obj])
  case arr => exact fun _ _ hne ih => tellsLone_arr hne ih
  case obj => exact fun _ _ hne ih => tellsLone_obj hne ih

/-! ### Colons at the start of a line -/

section

variable {lead tail r : Text} {c : CodePoint}

theorem not_colonFirst (hlead : ¬ ColonFirst lead) (hc : c.isBlank = false)
    (hcolon : c ≠ CodePoint.ofChar ':') (r : Text) : ¬ ColonFirst (lead ++ c :: r) := by
  rw [ColonFirst] at hlead ⊢
  cases hfind : lead.find? solid with
  | none => simp [hfind, solid, hc, hcolon]
  | some d =>
    rw [List.find?_append, hfind]
    simpa [hfind] using hlead

theorem not_colonFirst_margin (n depth : Nat) : ¬ ColonFirst (margin n depth) := by
  have hnone : (margin n depth).find? solid = none := by
    simpa [solid] using blank_margin n depth
  simp [ColonFirst, hnone]

theorem not_hasLine_colonFirst_line (hlead : CodePoint.ofChar '\n' ∉ lead)
    (htail : CodePoint.ofChar '\n' ∉ tail) (hw : CodePoint.ofChar '\n' ∉ c :: r)
    (hfirst : ¬ ColonFirst lead) (hc : c.isBlank = false) (hcolon : c ≠ CodePoint.ofChar ':') :
    ¬ HasLine ColonFirst (lead ++ (c :: r ++ tail)) := by
  have hunbroken : CodePoint.ofChar '\n' ∉ lead ++ (c :: r ++ tail) := by
    simp only [List.mem_append, hlead, htail, hw, or_self, not_false_eq_true]
  rw [hasLine_unbroken hunbroken]
  exact not_colonFirst hfirst hc hcolon (r ++ tail)

theorem not_hasLine_colonFirst_spread (hlead : CodePoint.ofChar '\n' ∉ lead)
    (htail : CodePoint.ofChar '\n' ∉ tail) (hfirst : ¬ ColonFirst lead) (depth : Nat)
    (b : Bracket) {α : Type} {xs : List α} (hne : xs ≠ []) (f : α → Text)
    (hf : ∀ x ∈ xs, ∀ tail, CodePoint.ofChar '\n' ∉ tail →
      ¬ HasLine ColonFirst (margin n (depth + 1) ++ (f x ++ tail))) :
    ¬ HasLine ColonFirst (lead ++ (spread n depth b (xs.map f) ++ tail)) := by
  have hopener : ¬ ColonFirst (lead ++ [b.opener]) :=
    not_colonFirst hfirst (by cases b <;> decide) (by cases b <;> decide) []
  have hcloser : ¬ ColonFirst (margin n depth ++ b.closer :: tail) :=
    not_colonFirst (not_colonFirst_margin n depth) (by cases b <;> decide)
      (by cases b <;> decide) tail
  rw [hasLine_spread hlead htail b hne]
  rintro (h | (⟨x, hx, h⟩ | ⟨x, hx, h⟩) | h)
  · exact hopener h
  · exact hf x (List.dropLast_subset xs hx) "," (by decide) h
  · exact hf x (List.mem_of_getLast? hx) [] (by simp) (by simpa using h)
  · exact hcloser h

end

theorem not_hasLine_colonFirst (n : Nat) (ascii : Bool)
    (hv : ∀ d, Inside (.float d) v → d.isFinite = true) (depth : Nat) {lead tail : Text}
    (hlead : CodePoint.ofChar '\n' ∉ lead)
    (htail : CodePoint.ofChar '\n' ∉ tail) (hfirst : ¬ ColonFirst lead) :
    ¬ HasLine ColonFirst (lead ++ (text (indentedStyle n ascii) depth v ++ tail)) := by
  refine text_tree (motive := fun _ _ w => ∀ lead tail, CodePoint.ofChar '\n' ∉ lead →
    CodePoint.ofChar '\n' ∉ tail → ¬ ColonFirst lead →
      ¬ HasLine ColonFirst (lead ++ (w ++ tail)))
    ?word ?string ?emptyArr ?emptyObj ?arr ?obj v hv depth lead tail hlead htail hfirst
  case word =>
    intro _ _ w _ _ hne hatomic lead tail hlead htail hfirst
    obtain ⟨c, r, rfl⟩ := List.exists_cons_of_ne_nil hne
    have hc := hatomic c (by simp)
    exact not_hasLine_colonFirst_line hlead htail (newline_not_mem_word hatomic) hfirst hc.plain.1
      (hc.ne (by decide))
  case string =>
    intro _ s lead tail hlead htail hfirst
    exact not_hasLine_colonFirst_line hlead htail (newline_not_mem_writtenString ascii s) hfirst
      (by decide) (by decide)
  case emptyArr =>
    intro _ lead tail hlead htail hfirst
    exact not_hasLine_colonFirst_line hlead htail (by decide) hfirst (by decide) (by decide)
  case emptyObj =>
    intro _ lead tail hlead htail hfirst
    exact not_hasLine_colonFirst_line hlead htail (by decide) hfirst (by decide) (by decide)
  case arr =>
    intro depth vs hne ih lead tail hlead htail hfirst
    exact not_hasLine_colonFirst_spread hlead htail hfirst depth .square hne _ fun v hmem tail htail =>
      ih v hmem _ tail (newline_not_mem_margin n _) htail (not_colonFirst_margin n _)
  case obj =>
    intro depth ms hne ih lead tail hlead htail hfirst
    refine not_hasLine_colonFirst_spread hlead htail hfirst depth .brace hne _
      fun m hmem tail htail => ?_
    have hname := not_colonFirst (not_colonFirst_margin n (depth + 1))
      (c := CodePoint.ofChar '"') (by decide) (by decide)
    have hbeside : Beside (margin n (depth + 1) ++ (writtenString ascii m.1 ++ ": ")) [] :=
      .name n (depth + 1) ascii m.1 (by simp)
    have hm := ih m hmem _ tail hbeside.unbroken htail (hname _)
    simpa [memberPiece] using hm

end Json

/-! ### The check -/

namespace Diagnosis
open Text

theorem judge_missingColon (n : Nat) (l next : Text) :
    (if l.strip.isQuotedName ∧ ¬ next.strip.startsWith ":" ∧ ¬ l.strip.contains ":" then
        some (⟨.line n, .addColon⟩ : Diagnosis)
      else none) = none ↔ ¬ (Lone l ∧ ¬ next.strip.startsWith ":") := by
  have hcontains : l.strip.contains ":" = true ↔ CodePoint.ofChar ':' ∈ l.strip :=
    contains_singleton
  rw [ite_eq_right_iff, hcontains, Lone, and_comm (a := ¬ next.strip.startsWith ":" = true),
    and_assoc]
  simp only [reduceCtorEq, imp_false]

theorem colonFirst_of_startsWith {l : Text} (h : l.strip.startsWith ":" = true) :
    ColonFirst l := by
  obtain ⟨r, hr⟩ := List.isPrefixOf_iff_prefix.mp h
  exact find?_solid_of_strip hr.symm

theorem missingColon_none {ls : List Text} (h : ∀ l ∈ ls, ¬ Lone l) : missingColon ls = none := by
  rw [missingColon]
  generalize 1 = n
  induction ls generalizing n with
  | nil => rfl
  | cons l ls ih =>
    cases ls with
    | nil => rfl
    | cons next ls =>
      have hfirst := (judge_missingColon n l next).mpr fun hl => h l (by simp) hl.1
      rw [firstPair, hfirst]
      exact ih (fun k hk => h k (by simp [hk])) (n + 1)

theorem exists_missingColon {ls : List Text} (hlone : ∃ l ∈ ls, Lone l)
    (hlast : ∀ l ∈ ls.getLast?, ¬ Lone l) (hcolon : ∀ l ∈ ls, ¬ ColonFirst l) :
    ∃ k, FirstLone ls k ∧ missingColon ls = some ⟨.line k, .addColon⟩ := by
  suffices h : ∃ before l after, ls = before ++ l :: after ∧ Lone l ∧ (∀ m ∈ before, ¬ Lone m) ∧
      missingColon ls = some ⟨.line (before.length + 1), .addColon⟩ by
    obtain ⟨before, l, after, hsplit, hl, hbefore, hd⟩ := h
    exact ⟨_, ⟨before, l, after, hsplit, hl, hbefore, rfl⟩, hd⟩
  rw [missingColon]
  generalize 1 = n
  induction ls generalizing n with
  | nil => simp at hlone
  | cons l ls ih =>
    cases ls with
    | nil =>
      obtain ⟨k, hk, hlone⟩ := hlone
      exact absurd hlone (hlast k (by simpa [eq_comm] using hk))
    | cons next ls =>
      by_cases hl : Lone l
      · have hnext : ¬ next.strip.startsWith ":" := fun h =>
          hcolon next (by simp) (colonFirst_of_startsWith h)
        refine ⟨[], l, next :: ls, rfl, hl, by simp, ?_⟩
        rw [firstPair, if_pos ⟨hl.1, hnext, fun h => hl.2 (contains_singleton.mp h)⟩,
          List.length_nil, Nat.zero_add]
        rfl
      · have hrest : ∃ k ∈ next :: ls, Lone k := by
          obtain ⟨k, hk, hlone⟩ := hlone
          rcases List.mem_cons.mp hk with rfl | hk
          · exact absurd hlone hl
          · exact ⟨k, hk, hlone⟩
        obtain ⟨before, k, after, hsplit, hk, hbefore, hfirst⟩ :=
          ih hrest (by simpa using hlast) (fun k hk => hcolon k (by simp [hk])) (n + 1)
        refine ⟨l :: before, k, after, by rw [hsplit, List.cons_append], hk, ?_, ?_⟩
        · exact List.forall_mem_cons.mpr ⟨hl, hbefore⟩
        · rw [firstPair, (judge_missingColon n l next).mpr fun h => hl h.1, List.length_cons,
            Nat.add_assoc, Nat.add_comm 1 n]
          exact hfirst

end Diagnosis

end JsonDesk
