import JsonDesk.Json.Write
import JsonDesk.Proofs.Strings

/-!
Strings as the writer spells them.  With raw code points between the quotes a string spells itself;
with nothing but escapes outside ASCII, a high surrogate and a low one behind it are spelled like
the one code point that they make together, and come back as that one.
-/

set_option autoImplicit false

namespace JsonDesk

namespace Text

/-- Every high surrogate with a low one behind it becomes the one code point that they stand for. -/
def joined : Text → Text
  | [] => []
  | [c] => [c]
  | c :: d :: t =>
    if c.isHighSurrogate ∧ d.isLowSurrogate then Json.joinUnits c.val d.val :: joined t
    else c :: joined (d :: t)

/-- Somewhere a low surrogate follows a high one. -/
def Paired (t : Text) : Prop :=
  ∃ a c d b, t = a ++ c :: d :: b ∧ c.isHighSurrogate = true ∧ d.isLowSurrogate = true

theorem paired_cons {c : CodePoint} {t : Text} (h : Paired t) : Paired (c :: t) := by
  obtain ⟨a, x, y, b, rfl, hx, hy⟩ := h
  exact ⟨c :: a, x, y, b, rfl, hx, hy⟩

theorem paired_cons_cons {c d : CodePoint} {t : Text} :
    Paired (c :: d :: t) ↔
      c.isHighSurrogate = true ∧ d.isLowSurrogate = true ∨ Paired (d :: t) := by
  constructor
  · rintro ⟨a, x, y, b, h, hx, hy⟩
    cases a with
    | nil =>
      simp only [List.nil_append, List.cons.injEq] at h
      obtain ⟨rfl, rfl, -⟩ := h
      exact .inl ⟨hx, hy⟩
    | cons a as =>
      rw [List.cons_append, List.cons.injEq] at h
      exact .inr ⟨as, x, y, b, h.2, hx, hy⟩
  · rintro (⟨hc, hd⟩ | h)
    · exact ⟨[], c, d, t, rfl, hc, hd⟩
    · exact paired_cons h

theorem not_paired_singleton (c : CodePoint) : ¬ Paired [c] := by
  rintro ⟨a, x, y, b, h, -⟩
  have := congrArg List.length h
  simp at this
  omega

theorem joined_eq_self {t : Text} (h : ¬ Paired t) : t.joined = t := by
  induction t using joined.induct with
  | case1 => rfl
  | case2 => rfl
  | case3 c d t hcd _ => exact absurd (paired_cons_cons.mpr (.inl hcd)) h
  | case4 c d t hcd ih =>
    rw [joined, if_neg hcd, ih fun hp => h (paired_cons hp)]

theorem length_joined_le (t : Text) : t.joined.length ≤ t.length := by
  induction t using joined.induct with
  | case1 => simp [joined]
  | case2 => simp [joined]
  | case3 c d t hcd ih => simp [joined, hcd]; omega
  | case4 c d t hcd ih => simpa [joined, hcd] using ih

theorem length_joined_lt {t : Text} (h : Paired t) : t.joined.length < t.length := by
  induction t using joined.induct with
  | case1 =>
    obtain ⟨a, x, y, b, h, -⟩ := h
    simp at h
  | case2 c => exact absurd h (not_paired_singleton c)
  | case3 c d t hcd _ =>
    have := length_joined_le t
    simp [joined, hcd]
    omega
  | case4 c d t hcd ih =>
    rcases paired_cons_cons.mp h with hp | hp
    · exact absurd hp hcd
    · simpa [joined, hcd] using ih hp

end Text

namespace Json
open Grammar

theorem hex4_hex {n : Nat} (h : n < 0x10000) : Hex4 (Text.hex 4 n) n := by
  have digit (d : Nat) : (CodePoint.ofDigit (d % 16)).hexDigit? = some (d % 16) :=
    CodePoint.hexDigit?_ofDigit (Nat.mod_lt d (by decide))
  have hn : ((n / 4096 % 16 * 16 + n / 256 % 16) * 16 + n / 16 % 16) * 16 + n / 1 % 16 = n := by
    omega
  have h4 := Hex4.mk (digit (n / 4096)) (digit (n / 256)) (digit (n / 16)) (digit (n / 1))
  rw [hn] at h4
  exact h4

@[simp] theorem ofNat_val (c : CodePoint) : CodePoint.ofNat c.val = c := by
  simp [CodePoint.ofNat, c.isLt]

theorem joinUnits_split {c : CodePoint} (h : 0x10000 ≤ c.val) :
    joinUnits (0xD800 + (c.val - 0x10000) / 0x400) (0xDC00 + (c.val - 0x10000) % 0x400) = c := by
  have hv : 0x10000 + (0xD800 + (c.val - 0x10000) / 0x400 - 0xD800) * 0x400 +
      (0xDC00 + (c.val - 0x10000) % 0x400 - 0xDC00) = c.val := by omega
  rw [joinUnits, hv, ofNat_val]

theorem eq_ofChar {c : CodePoint} {a : Char} (h : c.val = a.toNat) : c = CodePoint.ofChar a := by
  obtain ⟨n, hn⟩ := c
  cases h
  rfl

theorem writtenPoint_cases (ascii : Bool) (c : CodePoint) :
    (∃ d, Short d c ∧ writtenPoint ascii c = "\\" ++ [d]) ∨
    (writtenPoint ascii c = [c] ∧ 0x20 ≤ c.val ∧ c ≠ CodePoint.ofChar '"' ∧
      c ≠ CodePoint.ofChar '\\' ∧ (ascii = true → c.val < 0x7F)) ∨
    (writtenPoint ascii c = escapeUnit c.val ∧ c.val < 0x10000 ∧ (ascii = false → c.val < 0x20)) ∨
    (ascii = true ∧ 0x10000 ≤ c.val ∧ writtenPoint ascii c =
      escapeUnit (0xD800 + (c.val - 0x10000) / 0x400) ++
        escapeUnit (0xDC00 + (c.val - 0x10000) % 0x400)) := by
  rw [writtenPoint]
  by_cases hq : c = CodePoint.ofChar '"'
  · rw [if_pos hq, hq]
    exact .inl ⟨_, .quote, rfl⟩
  rw [if_neg hq]
  by_cases hb : c = CodePoint.ofChar '\\'
  · rw [if_pos hb, hb]
    exact .inl ⟨_, .backslash, rfl⟩
  rw [if_neg hb]
  by_cases hn : c = CodePoint.ofChar '\n'
  · rw [if_pos hn, hn]
    exact .inl ⟨_, .lineFeed, rfl⟩
  rw [if_neg hn]
  by_cases hr : c = CodePoint.ofChar '\r'
  · rw [if_pos hr, hr]
    exact .inl ⟨_, .carriageReturn, rfl⟩
  rw [if_neg hr]
  by_cases ht : c = CodePoint.ofChar '\t'
  · rw [if_pos ht, ht]
    exact .inl ⟨_, .tab, rfl⟩
  rw [if_neg ht]
  by_cases h8 : c.val = 8
  · rw [if_pos h8, eq_ofChar (a := '\x08') h8]
    exact .inl ⟨_, .backspace, rfl⟩
  rw [if_neg h8]
  by_cases h12 : c.val = 12
  · rw [if_pos h12, eq_ofChar (a := '\x0c') h12]
    exact .inl ⟨_, .formFeed, rfl⟩
  rw [if_neg h12]
  by_cases hlow : c.val < 0x20
  · rw [if_pos hlow]
    exact .inr (.inr (.inl ⟨rfl, by omega, fun _ => hlow⟩))
  rw [if_neg hlow]
  by_cases hraw : c.val < 0x7F ∨ (!ascii) = true
  · rw [if_pos hraw]
    exact .inr (.inl ⟨rfl, by omega, hq, hb, fun ha => by simpa [ha] using hraw⟩)
  rw [if_neg hraw]
  have ha : ascii = true := by
    cases ascii with
    | true => rfl
    | false => exact absurd (.inr rfl) hraw
  by_cases hu : c.val < 0x10000
  · rw [if_pos hu]
    exact .inr (.inr (.inl ⟨rfl, hu, fun h => by rw [ha] at h; cases h⟩))
  · rw [if_neg hu]
    exact .inr (.inr (.inr ⟨ha, by omega, rfl⟩))

theorem body_raw (t : Text) : Body (t.flatMap (writtenPoint false)) t := by
  induction t with
  | nil => exact .nil
  | cons c t ih =>
    rw [List.flatMap_cons]
    rcases writtenPoint_cases false c with ⟨d, hd, hw⟩ | ⟨hw, hlow, hq, hb, -⟩ | ⟨hw, hu, hlow⟩ |
      ⟨h, -⟩
    · rw [hw, List.append_assoc]
      exact .short hd ih
    · rw [hw]
      exact .plain hlow hq hb ih
    · have hc : c.val < 0x20 := hlow rfl
      have h := Body.unit (hex4_hex hu) (w := t.flatMap (writtenPoint false)) (t := t)
        (fun h => by have := h.1.1; omega) ih
      rw [ofNat_val] at h
      rw [hw]
      exact h
    · cases h

theorem lowUnit_of_lowAhead {n : Nat} {r : Text} (hn : n < 0x10000)
    (h : LowAhead (escapeUnit n ++ r)) : LowUnit n := by
  generalize hw : escapeUnit n ++ r = w at h
  obtain ⟨hx, hlow⟩ := h
  have hhex := hex4_hex hn
  rw [escapeUnit, List.append_assoc, List.append_assoc] at hw
  have hx' := List.append_inj (List.append_cancel_left hw) (hhex.length.trans hx.length.symm)
  rw [hx'.1] at hhex
  rwa [hhex.unique hx]

theorem not_lowAhead_nil : ¬ LowAhead [] := by
  generalize hw : ([] : Text) = w
  rintro ⟨-, -⟩
  simp [Text.ofString] at hw

theorem not_lowAhead {c : CodePoint} (hc : c.isLowSurrogate = false) (t : Text) :
    ¬ LowAhead ((c :: t).flatMap (writtenPoint true)) := by
  have hlt := c.isLt
  rw [List.flatMap_cons]
  rcases writtenPoint_cases true c with ⟨d, hd, hw⟩ | ⟨hw, -, -, hb, -⟩ | ⟨hw, hu, -⟩ | ⟨-, hu, hw⟩
  · rw [hw]
    generalize hv : "\\" ++ [d] ++ t.flatMap (writtenPoint true) = v
    rintro ⟨-, -⟩
    simp only [Text.ofString, String.reduceToList, List.map_cons, List.map_nil, List.cons_append,
      List.nil_append, List.cons.injEq, true_and] at hv
    exact not_short_u (hv.1 ▸ hd)
  · rw [hw]
    generalize hv : [c] ++ t.flatMap (writtenPoint true) = v
    rintro ⟨-, -⟩
    simp only [Text.ofString, String.reduceToList, List.map_cons, List.map_nil, List.cons_append,
      List.nil_append, List.cons.injEq] at hv
    exact hb hv.1
  · rw [hw]
    intro h
    have hlow := lowUnit_of_lowAhead hu h
    simp [CodePoint.isLowSurrogate] at hc
    exact absurd hlow.2 (by have := hc hlow.1; omega)
  · rw [hw, List.append_assoc]
    intro h
    have hlow := (lowUnit_of_lowAhead (by omega) h).1
    omega

theorem writtenPoint_surrogate {c : CodePoint} (hc : c.isSurrogate = true) :
    writtenPoint true c = escapeUnit c.val := by
  simp only [CodePoint.isSurrogate, decide_eq_true_eq] at hc
  rcases writtenPoint_cases true c with ⟨d, hd, -⟩ | ⟨-, -, -, -, hv⟩ | ⟨hw, -⟩ | ⟨-, hu, -⟩
  · cases hd <;> exact absurd hc (by decide)
  · exact absurd (hv rfl) (by omega)
  · exact hw
  · omega

/-- One code point in front of an escaped text spells itself, unless it is a high surrogate and the
escape of a low one comes next. -/
theorem body_cons {c : CodePoint} {w t : Text} (h : Body w t)
    (hc : ¬ (c.isHighSurrogate = true ∧ LowAhead w)) :
    Body (writtenPoint true c ++ w) (c :: t) := by
  have hlt := c.isLt
  rcases writtenPoint_cases true c with
    ⟨d, hd, hw⟩ | ⟨hw, hlow, hq, hb, -⟩ | ⟨hw, hu, -⟩ | ⟨-, hu, hw⟩
  · rw [hw, List.append_assoc]
    exact .short hd h
  · rw [hw]
    exact .plain hlow hq hb h
  · have hlone : ¬ (HighUnit c.val ∧ LowAhead w) := by
      simpa [CodePoint.isHighSurrogate, HighUnit] using hc
    have hbody := Body.unit (hex4_hex hu) hlone h
    rw [ofNat_val] at hbody
    rw [hw]
    exact hbody
  · have hhigh : HighUnit (0xD800 + (c.val - 0x10000) / 0x400) := ⟨by omega, by omega⟩
    have hlow : LowUnit (0xDC00 + (c.val - 0x10000) % 0x400) := ⟨by omega, by omega⟩
    have hbody := Body.pair (hex4_hex (by omega)) hhigh (hex4_hex (by omega)) hlow h
    rw [joinUnits_split hu] at hbody
    rw [hw, escapeUnit, escapeUnit]
    simpa using hbody

/-- The escaped spelling of a text spells the text with its pairs joined. -/
theorem body_ascii (t : Text) : Body (t.flatMap (writtenPoint true)) t.joined := by
  induction t using Text.joined.induct with
  | case1 => exact .nil
  | case2 c =>
    have hbody := body_cons (c := c) .nil fun h => not_lowAhead_nil h.2
    simpa [Text.joined] using hbody
  | case3 c d t hcd ih =>
    obtain ⟨hc, hd⟩ := hcd
    have hcs : c.isSurrogate = true := by simp [CodePoint.isSurrogate_eq, hc]
    have hds : d.isSurrogate = true := by simp [CodePoint.isSurrogate_eq, hd]
    have hhigh : HighUnit c.val := by simpa [CodePoint.isHighSurrogate, HighUnit] using hc
    have hlow : LowUnit d.val := by simpa [CodePoint.isLowSurrogate, LowUnit] using hd
    have hbody := Body.pair (hex4_hex (Nat.lt_of_le_of_lt hhigh.2 (by decide))) hhigh
      (hex4_hex (Nat.lt_of_le_of_lt hlow.2 (by decide))) hlow ih
    rw [Text.joined, if_pos ⟨hc, hd⟩, List.flatMap_cons, List.flatMap_cons,
      writtenPoint_surrogate hcs, writtenPoint_surrogate hds, escapeUnit, escapeUnit]
    simpa using hbody
  | case4 c d t hcd ih =>
    rw [Text.joined, if_neg hcd, List.flatMap_cons]
    refine body_cons ih ?_
    rintro ⟨hc, h⟩
    exact not_lowAhead (by simpa [hc] using hcd) t h

end Json

end JsonDesk
