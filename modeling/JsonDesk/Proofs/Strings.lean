import JsonDesk.Proofs.Numerals

set_option autoImplicit false

namespace JsonDesk

/-- A reader gives the value and leaves the rest. -/
def Reads {α : Type} {start : Text} (result : Except Fault (Parsed α start)) (value : α)
    (rest : Text) : Prop :=
  ∃ p, result = .ok p ∧ p.value = value ∧ p.rest = rest

@[simp] theorem reads_ok {α : Type} {start : Text} {p : Parsed α start} {v : α} {r : Text} :
    Reads (.ok p) v r ↔ p.value = v ∧ p.rest = r := by
  simp [Reads]

@[simp] theorem not_reads_error {α : Type} {start : Text} {e : Fault} {v : α} {r : Text} :
    ¬ Reads (.error e : Except Fault (Parsed α start)) v r := by
  simp [Reads]

namespace Grammar

theorem Hex4.length {x : Text} {n : Nat} (h : Hex4 x n) : x.length = 4 := by
  cases h; rfl

theorem Hex4.unique {x : Text} {m n : Nat} (hm : Hex4 x m) (hn : Hex4 x n) : m = n := by
  cases hm; cases hn; simp_all

end Grammar

namespace Json
open Grammar

theorem shortEscape?_iff {c d : CodePoint} : shortEscape? c = some d ↔ Short c d := by
  constructor
  · intro h
    unfold shortEscape? at h
    repeat' split at h
    all_goals simp_all only [Option.some.injEq, reduceCtorEq]
    · rename_i hc
      rcases hc with rfl | rfl | rfl <;> subst h
      · exact .quote
      · exact .backslash
      · exact .slash
    · subst h; exact .backspace
    · subst h; exact .formFeed
    · subst h; exact .lineFeed
    · subst h; exact .carriageReturn
    · subst h; exact .tab
  · intro h
    cases h <;> decide

theorem not_short_u {d : CodePoint} : ¬ Short 'u' d := by
  rw [← shortEscape?_iff]
  simp [shortEscape?]

theorem unit?_eq_some_iff {t r : Text} {n : Nat} :
    unit? t = some (n, r) ↔ r ≠ [] ∧ ∃ x, Hex4 x n ∧ t = x ++ r := by
  constructor
  · intro h
    unfold unit? at h
    split at h
    · split at h
      · next ha hb hc hd =>
        simp only [Option.some.injEq, Prod.mk.injEq] at h
        obtain ⟨rfl, rfl⟩ := h
        exact ⟨by simp, _, .mk ha hb hc hd, rfl⟩
      · simp at h
    · simp at h
  · rintro ⟨hr, x, ⟨ha, hb, hc, hd⟩, rfl⟩
    cases r with
    | nil => exact absurd rfl hr
    | cons e r => simp [unit?, ha, hb, hc, hd]

theorem lowUnit?_eq_some_iff {t r : Text} {n : Nat} :
    lowUnit? t = some (n, r) ↔
      r ≠ [] ∧ LowUnit n ∧ ∃ x, Hex4 x n ∧ t = "\\u" ++ x ++ r := by
  constructor
  · intro h
    unfold lowUnit? at h
    split at h
    · split at h
      · next b u t hbu =>
        obtain ⟨rfl, rfl⟩ := hbu
        obtain ⟨h, hlow⟩ := Option.filter_eq_some_iff.mp h
        obtain ⟨hr, x, hx, rfl⟩ := unit?_eq_some_iff.mp h
        exact ⟨hr, by simpa [LowUnit] using hlow, x, hx, rfl⟩
      · simp at h
    · simp at h
  · rintro ⟨hr, hlow, x, hx, rfl⟩
    have h := unit?_eq_some_iff.mpr ⟨hr, x, hx, rfl⟩
    have hshape : ("\\u" ++ x ++ r : Text) =
        CodePoint.ofChar '\\' :: CodePoint.ofChar 'u' :: (x ++ r) := rfl
    rw [hshape]
    simp only [lowUnit?, and_self, if_true, h]
    simpa [LowUnit] using hlow

theorem lowUnit?_eq_none_iff {t : Text} :
    lowUnit? t = none ↔
      ∀ (x r : Text) (n : Nat), Hex4 x n → LowUnit n → r ≠ [] → t ≠ "\\u" ++ x ++ r := by
  constructor
  · intro h x r n hx hn hr ht
    rw [lowUnit?_eq_some_iff.mpr ⟨hr, hn, x, hx, ht⟩] at h
    cases h
  · intro h
    cases ht : lowUnit? t with
    | none => rfl
    | some p =>
      obtain ⟨hr, hn, x, hx, ht⟩ := lowUnit?_eq_some_iff.mp ht
      exact absurd ht (h x _ _ hx hn hr)

theorem reads_escape_short {start t r : Text} {c d : CodePoint} (hc : c ≠ CodePoint.ofChar 'u') :
    Reads (escape start (c :: t)) d r ↔ Short c d ∧ t = r := by
  rw [escape, ← shortEscape?_iff]
  split
  · next e hs => simp [hs]
  · next hs => simp [hs, hc]

theorem reads_escape_unit {start t r : Text} {d : CodePoint} :
    Reads (escape start (CodePoint.ofChar 'u' :: t)) d r ↔
      ∃ n u, unit? t = some (n, u) ∧
        (¬ (HighUnit n ∧ lowUnit? u ≠ none) ∧ CodePoint.ofNat n = d ∧ u = r ∨
          HighUnit n ∧ ∃ m, lowUnit? u = some (m, r) ∧ joinUnits n m = d) := by
  rw [escape]
  split
  · next hs => exact absurd (shortEscape?_iff.mp hs) not_short_u
  · simp only [if_true]
    split
    · next hu => simp [hu]
    · next n u hu =>
      have hunit {P : Nat → Text → Prop} :
          (∃ n' u', unit? t = some (n', u') ∧ P n' u') ↔ P n u := by simp [hu, and_assoc]
      rw [hunit, HighUnit]
      split
      · next hhigh =>
        split
        · next m v hv => simp [hhigh, hv, and_assoc, and_comm]
        · next hv => simp [hv]
      · next hhigh => simp [hhigh]

/-- An escape is read as one of the three kinds of the grammar. -/
theorem reads_escape {start t r : Text} {d : CodePoint} :
    Reads (escape start t) d r ↔
      (∃ c, Short c d ∧ t = c :: r) ∨
      (∃ x n, Hex4 x n ∧ r ≠ [] ∧ ¬ (HighUnit n ∧ lowUnit? r ≠ none) ∧ t = "u" ++ x ++ r ∧
        CodePoint.ofNat n = d) ∨
      (∃ x y high low, Hex4 x high ∧ HighUnit high ∧ Hex4 y low ∧ LowUnit low ∧ r ≠ [] ∧
        t = "u" ++ x ++ "\\u" ++ y ++ r ∧ joinUnits high low = d) := by
  constructor
  · intro h
    cases t with
    | nil => simp [escape] at h
    | cons c t =>
      by_cases hc : c = CodePoint.ofChar 'u'
      · subst hc
        obtain ⟨n, u, hu, ⟨hlone, hd, rfl⟩ | ⟨hhigh, m, hm, hd⟩⟩ := reads_escape_unit.mp h
        · obtain ⟨hne, x, hx, rfl⟩ := unit?_eq_some_iff.mp hu
          exact .inr (.inl ⟨x, n, hx, hne, hlone, rfl, hd⟩)
        · obtain ⟨-, x, hx, rfl⟩ := unit?_eq_some_iff.mp hu
          obtain ⟨hr, hlow, y, hy, rfl⟩ := lowUnit?_eq_some_iff.mp hm
          refine .inr (.inr ⟨x, y, n, m, hx, hhigh, hy, hlow, hr, ?_, hd⟩)
          simp [Text.ofString]
      · obtain ⟨hshort, rfl⟩ := (reads_escape_short hc).mp h
        exact .inl ⟨c, hshort, rfl⟩
  · rintro (⟨c, hc, rfl⟩ | ⟨x, n, hx, hne, hlone, rfl, hd⟩ |
      ⟨x, y, high, low, hx, hhigh, hy, hlow, hne, rfl, hd⟩)
    · have hu : c ≠ CodePoint.ofChar 'u' := by
        rintro rfl
        exact not_short_u hc
      exact (reads_escape_short hu).mpr ⟨hc, rfl⟩
    · exact reads_escape_unit.mpr
        ⟨n, r, unit?_eq_some_iff.mpr ⟨hne, x, hx, rfl⟩, .inl ⟨hlone, hd, rfl⟩⟩
    · have hm := lowUnit?_eq_some_iff.mpr ⟨hne, hlow, y, hy, rfl⟩
      have hshape : ("u" ++ x ++ "\\u" ++ y ++ r : Text) =
          CodePoint.ofChar 'u' :: (x ++ ("\\u" ++ y ++ r)) := by simp [Text.ofString]
      rw [hshape]
      exact reads_escape_unit.mpr
        ⟨high, _, unit?_eq_some_iff.mpr ⟨by simp [hne], x, hx, rfl⟩, .inr ⟨hhigh, low, hm, hd⟩⟩

theorem lowAhead_iff {w t : Text} {c : CodePoint} (h : Body w t) (hc : c ≠ CodePoint.ofChar '\\')
    (r : Text) : lowUnit? (w ++ c :: r) ≠ none ↔ LowAhead w := by
  constructor
  · intro hne
    obtain ⟨⟨n, r'⟩, hl⟩ := Option.ne_none_iff_exists'.mp hne
    obtain ⟨hr', hlow, x, hx, heq⟩ := lowUnit?_eq_some_iff.mp hl
    cases h with
    | nil => simp [Text.ofString, hc] at heq
    | plain _ _ hb => simp [Text.ofString, hb] at heq
    | short hs =>
      simp only [Text.ofString, List.cons_append, String.reduceToList, List.map_cons, List.map_nil,
        List.nil_append, List.cons.injEq, true_and] at heq
      exact absurd (heq.1 ▸ hs) not_short_u
    | @unit x' w t n' hx' _ _ =>
      simp only [List.append_assoc, List.append_cancel_left_eq] at heq
      obtain ⟨rfl, -⟩ := List.append_inj heq (hx'.length.trans hx.length.symm)
      exact .mk hx hlow
    | @pair x' y w t high low hx' _ _ _ _ =>
      simp only [List.append_assoc, List.append_cancel_left_eq] at heq
      obtain ⟨rfl, -⟩ := List.append_inj heq (hx'.length.trans hx.length.symm)
      simp only [List.append_assoc]
      rw [← List.append_assoc]
      exact .mk hx hlow
  · rintro ⟨hx, hlow⟩ hnone
    simp only [List.append_assoc] at hnone
    rw [← List.append_assoc] at hnone
    exact lowUnit?_eq_none_iff.mp hnone _ _ _ hx hlow (by simp) rfl

theorem string_escape {start t u : Text} {d : CodePoint} {h h' done}
    (he : Reads (escape start t) d u) :
    string start (CodePoint.ofChar '\\' :: t) h done = string start u h' (d :: done) := by
  obtain ⟨p, hp, rfl, rfl⟩ := he
  rw [string]
  simp [hp, CodePoint.ofChar_val]

theorem string_sound {start t r s : Text} {h : t.length < start.length} {done : Text}
    (hread : Reads (string start t h done) s r) :
    ∃ w u, Body w u ∧ t = w ++ "\"" ++ r ∧ s = done.reverse ++ u := by
  fun_induction string start t h done with
  | case1 => simp at hread
  | case2 done t h =>
    obtain ⟨rfl, rfl⟩ := reads_ok.mp hread
    exact ⟨[], [], .nil, rfl, by simp⟩
  | case3 => simp at hread
  | case4 => simp at hread
  | case5 done t p hp h hr hq hc hlt ih =>
    obtain ⟨d, rest, hs⟩ := p
    obtain ⟨w, u, hbody, hrest, rfl⟩ := ih hread
    simp only at hrest
    have he : Reads (escape start t) d rest := ⟨_, hp, rfl, rfl⟩
    rcases reads_escape.mp he with ⟨c, hshort, ht⟩ | ⟨x, n, hx, hne, hlone, ht, rfl⟩ |
      ⟨x, y, high, low, hx, hhigh, hy, hlow, hne, ht, rfl⟩
    · exact ⟨_, _, .short hshort hbody, by simp [ht, hrest, Text.ofString], by simp⟩
    · have hquote : w ++ "\"" ++ r = w ++ CodePoint.ofChar '"' :: r := by simp [Text.ofString]
      rw [hrest, hquote, lowAhead_iff hbody (by decide)] at hlone
      exact ⟨_, _, .unit hx hlone hbody, by simp [ht, hrest, Text.ofString], by simp⟩
    · exact ⟨_, _, .pair hx hhigh hy hlow hbody, by simp [ht, hrest, Text.ofString], by simp⟩
  | case6 done c t h hr hq hc hb hlt ih =>
    obtain ⟨w, u, hbody, rfl, rfl⟩ := ih hread
    exact ⟨c :: w, c :: u, .plain (by omega) hq hb hbody, rfl, by simp⟩

theorem string_append_escape {start t e rest r done done' : Text} {d : CodePoint}
    (he : Reads (escape start (e ++ rest)) d rest) (ht : t = "\\" ++ e ++ rest)
    (ih : ∀ h, ∃ h', string start rest h (d :: done) = string start r h' done')
    (h : t.length < start.length) : ∃ h', string start t h done = string start r h' done' := by
  subst ht
  have hrest : rest.length < start.length := by simp [Text.ofString] at h; omega
  obtain ⟨h', heq⟩ := ih hrest
  refine ⟨h', ?_⟩
  rw [← heq, ← string_escape he (h := by simpa [Text.ofString] using h)]
  simp [Text.ofString]

/-- A body is gone through up to what is behind it, unless that is another escape. -/
theorem string_append {start w u : Text} {c : CodePoint} (hbody : Body w u)
    (hc : c ≠ CodePoint.ofChar '\\') (r done : Text) (h : (w ++ c :: r).length < start.length) :
    ∃ h', string start (w ++ c :: r) h done = string start (c :: r) h' (u.reverse ++ done) := by
  induction hbody generalizing done with
  | nil => exact ⟨h, rfl⟩
  | @plain a w u hlow hq hb _ ih =>
    have h' : (w ++ c :: r).length < start.length := by simp at h ⊢; omega
    have hcontrol : ¬ a.val < 0x20 := by omega
    simp only [List.cons_append]
    rw [string]
    simpa [hq, hb, hcontrol] using ih (a :: done) h'
  | @short a d w u hshort _ ih =>
    have he : Reads (escape start ([a] ++ (w ++ c :: r))) d (w ++ c :: r) :=
      reads_escape.mpr (.inl ⟨a, hshort, rfl⟩)
    exact string_append_escape he (by simp) (fun h => by simpa using ih (d :: done) h) h
  | @unit x w u n hx hlone hbody ih =>
    have he : Reads (escape start (("u" ++ x) ++ (w ++ c :: r))) (CodePoint.ofNat n)
        (w ++ c :: r) := by
      refine reads_escape.mpr (.inr (.inl ⟨x, n, hx, by simp, ?_, rfl, rfl⟩))
      rwa [lowAhead_iff hbody hc]
    exact string_append_escape he (by simp [Text.ofString])
      (fun h => by simpa using ih (CodePoint.ofNat n :: done) h) h
  | @pair x y w u high low hx hhigh hy hlow hbody ih =>
    have he : Reads (escape start (("u" ++ x ++ "\\u" ++ y) ++ (w ++ c :: r)))
        (joinUnits high low) (w ++ c :: r) :=
      reads_escape.mpr (.inr (.inr ⟨x, y, high, low, hx, hhigh, hy, hlow, by simp, rfl, rfl⟩))
    exact string_append_escape he (by simp [Text.ofString])
      (fun h => by simpa using ih (joinUnits high low :: done) h) h

theorem string_of_body {start w u : Text} (hbody : Body w u) (r : Text)
    (h : (w ++ "\"" ++ r).length < start.length) :
    Reads (string start (w ++ "\"" ++ r) h []) u r := by
  have hshape : w ++ "\"" ++ r = w ++ CodePoint.ofChar '"' :: r := by simp [Text.ofString]
  simp only [hshape] at h ⊢
  obtain ⟨h', heq⟩ := string_append hbody (c := '"') (by decide) r [] h
  rw [heq, string]
  simp

theorem reads_string {start t r s : Text} {h : t.length < start.length} :
    Reads (string start t h []) s r ↔ ∃ w, Body w s ∧ t = w ++ "\"" ++ r := by
  constructor
  · intro hread
    obtain ⟨w, u, hbody, ht, rfl⟩ := string_sound hread
    exact ⟨w, by simpa using hbody, ht⟩
  · rintro ⟨w, hbody, rfl⟩
    exact string_of_body hbody r h

end Json

end JsonDesk
