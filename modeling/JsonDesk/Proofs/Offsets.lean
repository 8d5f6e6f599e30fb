import JsonDesk.Proofs.Lines
import JsonDesk.Proofs.Messages
import Mathlib.Data.List.Induction
import Mathlib.Data.Set.Function
import Mathlib.Order.Interval.Set.Defs

set_option autoImplicit false

namespace JsonDesk

/-- On an earlier line, or further to the left on the same one. -/
def Position.Before (p q : Position) : Prop :=
  p.line < q.line ∨ p.line = q.line ∧ p.column < q.column

namespace Text
open Position

/-- The position of an offset, told from the pieces between the line feeds before it. -/
def positionByPieces (t : Text) (k : Nat) : Position :=
  let pieces := lines (t.take k)
  ⟨pieces.length, (pieces.getLastD []).length + 1⟩

/-- The position of an offset, told from the number of line feeds before it and from how far back
the last of them is. -/
def positionByCount (t : Text) (k : Nat) : Position :=
  let front := t.take k
  ⟨front.count (CodePoint.ofChar '\n') + 1, front.reverse.idxOf (CodePoint.ofChar '\n') + 1⟩

variable {t l : Text} {ls : List Text} {k : Nat}

/-! ### The order -/

theorem before_trans {p q r : Position} (h : p.Before q) (h' : q.Before r) : p.Before r := by
  simp only [Before] at *
  omega

theorem not_before_self (p : Position) : ¬ p.Before p := by
  simp [Before]

theorem before_advance (p : Position) (c : CodePoint) : p.Before (advance p c) := by
  rw [advance]
  split <;> simp [Before]

theorem endPosition_append (u v : Text) : endPosition (u ++ v) = v.foldl advance (endPosition u) :=
  List.foldl_append

theorem before_foldl_advance (p : Position) {u : Text} (hu : u ≠ []) :
    p.Before (u.foldl advance p) := by
  induction u generalizing p with
  | nil => exact absurd rfl hu
  | cons c u ih =>
    by_cases hne : u = []
    · subst hne
      exact before_advance p c
    · exact before_trans (before_advance p c) (ih (advance p c) hne)

theorem before_positionAt {j : Nat} (h : j < k) (hk : k ≤ t.length) :
    (t.positionAt j).Before (t.positionAt k) := by
  have hsplit : t.take k = t.take j ++ (t.take k).drop j := by
    conv_lhs => rw [← List.take_append_drop j (t.take k)]
    rw [List.take_take, Nat.min_eq_left (Nat.le_of_lt h)]
  have hne : (t.take k).drop j ≠ [] := by
    rw [← List.length_pos_iff, List.length_drop, List.length_take]
    omega
  have hp := before_foldl_advance (endPosition (t.take j)) hne
  rwa [← endPosition_append, ← hsplit] at hp

/-! ### Positions by lines -/

theorem foldl_advance_line (h : CodePoint.ofChar '\n' ∉ l) (p : Position) :
    l.foldl advance p = ⟨p.line, p.column + l.length⟩ := by
  induction l generalizing p with
  | nil => rfl
  | cons c l ih =>
    rw [List.mem_cons, not_or] at h
    rw [List.foldl_cons, ih h.2, advance, if_neg (Ne.symm h.1), List.length_cons]
    simp only [Position.mk.injEq, true_and]
    omega

theorem foldl_advance_led (h : Unbroken ls) (n : Nat) :
    (led '\n' ls).foldl advance ⟨n, 1⟩ = ⟨n + ls.length, 1⟩ := by
  induction ls generalizing n with
  | nil => rfl
  | cons l ls ih =>
    rw [led_cons, List.foldl_append, foldl_advance_line (h l (by simp)), List.foldl_cons, advance,
      if_pos rfl, ih fun u hu => h u (by simp [hu]), List.length_cons]
    simp only [Position.mk.injEq, and_true]
    omega

theorem endPosition_led (h : Unbroken ls) (hl : CodePoint.ofChar '\n' ∉ l) :
    endPosition (led '\n' ls ++ l) = ⟨ls.length + 1, l.length + 1⟩ := by
  rw [endPosition_append, foldl_advance_line hl]
  have hled : endPosition (led '\n' ls) = ⟨1 + ls.length, 1⟩ := foldl_advance_led h 1
  rw [hled]
  simp only [Position.mk.injEq]
  omega

theorem positionAt_eq_pieces (t : Text) (k : Nat) : t.positionAt k = t.positionByPieces k := by
  have hpos : t.positionAt k = endPosition (t.take k) := rfl
  obtain ⟨ls, l, hlines⟩ : ∃ ls l, lines (t.take k) = ls ++ [l] :=
    ⟨_, _, (List.dropLast_append_getLast (lines_ne_nil _)).symm⟩
  have htake : t.take k = led '\n' ls ++ l := by
    conv_lhs => rw [eq_led_append hlines, join_singleton]
  have hunbroken := unbroken_lines (t.take k)
  rw [hlines] at hunbroken
  rw [hpos, positionByPieces, hlines, htake, endPosition_led
    (fun u hu => hunbroken u (by simp [hu])) (hunbroken l (by simp))]
  simp

theorem positionAt_eq_count (t : Text) (k : Nat) : t.positionAt k = t.positionByCount k := by
  have hpos : t.positionAt k = endPosition (t.take k) := rfl
  rw [hpos, positionByCount]
  induction t.take k using List.reverseRecOn with
  | nil => rfl
  | append_singleton u c ih =>
    rw [endPosition_append, ih]
    by_cases hc : c = CodePoint.ofChar '\n' <;> simp [advance, hc]

/-! ### Offsets and positions -/

theorem positionAt_of_nonpos (t : Text) {offset : Int} (h : offset ≤ 0) :
    t.positionAt offset = t.positionAt 0 := by
  have hoffset : offset.toNat = 0 := by omega
  rw [positionAt, hoffset]
  rfl

theorem positionAt_of_length_le (t : Text) {offset : Int} (h : t.length ≤ offset) :
    t.positionAt offset = t.positionAt t.length := by
  have hoffset : t.length ≤ offset.toNat := by omega
  rw [positionAt, positionAt, Int.toNat_natCast, List.take_of_length_le hoffset, List.take_length]

theorem exists_offset {p : Position} (h : (Place.point p).On 1 t.lines) :
    ∃ k, k ≤ t.length ∧ t.positionAt k = p := by
  obtain ⟨i, l, hline, hl, hlow, hhigh⟩ := h
  obtain ⟨before, after, hlines, rfl⟩ := exists_lines_eq hl
  have hunbroken := unbroken_lines t
  rw [hlines] at hunbroken
  have hled : led '\n' before ++ l <+: t := by
    rw [eq_led_append hlines]
    exact (List.prefix_append_right_inj _).mpr (List.prefix_append _ _)
  have hprefix : led '\n' before ++ l.take (p.column - 1) <+: t :=
    ((List.prefix_append_right_inj _).mpr (List.take_prefix _ _)).trans hled
  refine ⟨(led '\n' before ++ l.take (p.column - 1)).length, hprefix.length_le, ?_⟩
  have hpos (k : Nat) : t.positionAt k = endPosition (t.take k) := rfl
  have hnew : CodePoint.ofChar '\n' ∉ l.take (p.column - 1) := fun hmem =>
    hunbroken l (by simp) (List.mem_of_mem_take hmem)
  rw [hpos, ← List.prefix_iff_eq_take.mp hprefix, endPosition_led
    (fun u hu => hunbroken u (by simp [hu])) hnew, List.length_take]
  cases p
  simp only [Position.mk.injEq] at hline hlow hhigh ⊢
  omega

theorem bijOn_positionAt (t : Text) :
    Set.BijOn (fun k : Nat => t.positionAt k) (Set.Iic t.length)
      {p | (Place.point p).On 1 t.lines} := by
  refine ⟨fun k _ => on_positionAt t k, fun j hj k hk heq => ?_, fun p hp => exists_offset hp⟩
  have heq' : t.positionAt j = t.positionAt k := heq
  rcases Nat.lt_trichotomy j k with h | h | h
  · have hbefore := before_positionAt h hk
    rw [heq'] at hbefore
    exact absurd hbefore (not_before_self _)
  · exact h
  · have hbefore := before_positionAt h hj
    rw [heq'] at hbefore
    exact absurd hbefore (not_before_self _)

theorem positionAt_le (t : Text) (k : Nat) :
    (t.positionAt k).line ≤ t.length + 1 ∧ (t.positionAt k).column ≤ t.length + 1 := by
  have hcount := List.count_le_length (a := CodePoint.ofChar '\n') (l := t.take k)
  have hback := List.idxOf_le_length (a := CodePoint.ofChar '\n') (l := (t.take k).reverse)
  rw [List.length_reverse] at hback
  rw [List.length_take] at hcount hback
  rw [positionAt_eq_count, positionByCount]
  simp only
  omega

/-! ### Positions in messages -/

theorem append_ofNat_inj {x y : Text} {n m : Nat} (hx : Numeral.NoDigit x.reverse)
    (hy : Numeral.NoDigit y.reverse) (h : x ++ ofNat n = y ++ ofNat m) : x = y ∧ n = m := by
  have hdigits (n : Nat) : ∀ c ∈ (ofNat n).reverse, c.isDigit := fun c hc =>
    isDigit_of_mem_ofNat n c (List.mem_reverse.mp hc)
  have hreverse := congrArg (fun u : Text => Numeral.digits u.reverse) h
  simp only [List.reverse_append] at hreverse
  rw [Numeral.digits_of (hdigits n) hx, Numeral.digits_of (hdigits m) hy,
    List.reverse_inj] at hreverse
  have hmagnitude := congrArg Numeral.magnitude hreverse
  rw [Numeral.magnitude_ofNat, Numeral.magnitude_ofNat] at hmagnitude
  rw [hreverse] at h
  exact ⟨List.append_cancel_right h, hmagnitude⟩

theorem noDigit_reverse {u : Text} {c : CodePoint} (hc : c.isDigit = false) :
    Numeral.NoDigit (u ++ [c]).reverse := by
  intro d hd
  rw [List.reverse_append, List.reverse_singleton, List.singleton_append] at hd
  cases hd
  exact hc

end Text

namespace Fault
open Text

variable {t : Text}

def placeText (line column offset : Nat) : Text :=
  "line " ++ ofNat line ++ " column " ++ ofNat column ++ " (char " ++ ofNat offset ++ ")"

theorem message_misread (what : Misreading) (left : Nat) : (misread what left).message t =
    what.phrase ++ ": " ++ placeText (t.positionAt ((t.length - left : Nat) : Int)).line
      (t.positionAt ((t.length - left : Nat) : Int)).column (t.length - left) := by
  simp [message, placeText, ofString]

theorem placeText_inj {x y : Text} {l c k l' c' k' : Nat}
    (h : x ++ placeText l c k = y ++ placeText l' c' k') : l = l' ∧ c = c' ∧ k = k' := by
  have hspace : (CodePoint.ofChar ' ').isDigit = false := by decide
  have hline : ofString "line " = ofString "line" ++ [CodePoint.ofChar ' '] := rfl
  have hcolumn : ofString " column " = ofString " column" ++ [CodePoint.ofChar ' '] := rfl
  have hchar : ofString " (char " = ofString " (char" ++ [CodePoint.ofChar ' '] := rfl
  simp only [placeText, ← List.append_assoc] at h
  have h := List.append_cancel_right h
  rw [hline, hcolumn, hchar] at h
  simp only [← List.append_assoc] at h
  obtain ⟨h, hk⟩ := append_ofNat_inj (noDigit_reverse hspace) (noDigit_reverse hspace) h
  have h := List.append_cancel_right (List.append_cancel_right h)
  obtain ⟨h, hc⟩ := append_ofNat_inj (noDigit_reverse hspace) (noDigit_reverse hspace) h
  have h := List.append_cancel_right (List.append_cancel_right h)
  obtain ⟨-, hl⟩ := append_ofNat_inj (noDigit_reverse hspace) (noDigit_reverse hspace) h
  exact ⟨hl, hc, hk⟩

theorem place_of_message {f : Fault} {l c k : Nat}
    (h : (f.message t).endsWith (placeText l c k) = true) :
    ∃ what left, f = misread what left ∧ k = t.length - left ∧ t.positionAt k = ⟨l, c⟩ := by
  have hlast : (f.message t).getLast? = some (CodePoint.ofChar ')') :=
    Diagnosis.getLast_of_endsWith (by rw [placeText, List.getLast?_append]; rfl) h
  cases f with
  | misread what left =>
    obtain ⟨u, hu⟩ := List.isSuffixOf_iff_suffix.mp h
    rw [message_misread] at hu
    obtain ⟨rfl, rfl, rfl⟩ := placeText_inj hu
    exact ⟨what, left, rfl, rfl, rfl⟩
  | constant which => cases which <;> cases hlast
  | tooDeep container => cases container <;> cases hlast
  | tooLong digits =>
    rw [message, tooLongMessage, List.getLast?_append] at hlast
    cases hlast

theorem ofMessage_misread (what : Misreading) (left : Nat) (h : t.length + 1 < 10 ^ maxDigits) :
    Diagnosis.ofMessage t ((misread what left).message t) =
      .ok ⟨.point (t.positionAt ((t.length - left : Nat) : Int)), .lookHere⟩ := by
  have hbound := positionAt_le t (t.length - left)
  have hdigits {n : Nat} (hn : n ≤ t.length + 1) : ¬ maxDigits < (ofNat n).length :=
    Nat.not_lt.mpr (length_ofNat_le (by decide) (Nat.lt_of_le_of_lt hn h))
  rw [Diagnosis.ofMessage, search_misread]
  simp only [toInt_ofNat, if_neg (hdigits hbound.1), if_neg (hdigits hbound.2)]
  rfl

end Fault

/-- The offsets of a text and the positions in it correspond to each other one to one and in their
order, and offsets outside it count as its ends.  A position is told alike by the pieces before it
and by the line feeds before it.  Where a refusal names a line, a column and an offset, they belong
together, and its diagnosis is at that line and column, unless these have too many digits to be
converted, for which the text would have to be longer than any that a machine holds. -/
theorem Text.positions_agree [StackRoom] (t : Text) :
    Set.BijOn (fun k : Nat => t.positionAt k) (Set.Iic t.length)
        {p | (Place.point p).On 1 t.lines} ∧
      (∀ j k : Nat, j < k → k ≤ t.length → (t.positionAt j).Before (t.positionAt k)) ∧
      (∀ offset : Int, offset ≤ 0 → t.positionAt offset = t.positionAt 0) ∧
      (∀ offset : Int, t.length ≤ offset → t.positionAt offset = t.positionAt t.length) ∧
      (∀ k : Nat, t.positionAt k = t.positionByPieces k ∧ t.positionAt k = t.positionByCount k) ∧
      ∀ (how : Reading) (fault : Fault), Json.decode how t = .error fault →
        ∀ line column offset : Nat,
          (fault.message t).endsWith (Fault.placeText line column offset) = true →
            offset ≤ t.length ∧ t.positionAt offset = ⟨line, column⟩ ∧
              (t.length + 1 < 10 ^ maxDigits → Diagnosis.ofMessage t (fault.message t) =
                .ok ⟨.point ⟨line, column⟩, .lookHere⟩) := by
  refine ⟨bijOn_positionAt t, fun _ _ => before_positionAt, fun _ => positionAt_of_nonpos t,
    fun _ => positionAt_of_length_le t,
    fun k => ⟨positionAt_eq_pieces t k, positionAt_eq_count t k⟩, ?_⟩
  intro how fault _ line column offset hmessage
  obtain ⟨what, left, rfl, rfl, hposition⟩ := Fault.place_of_message hmessage
  refine ⟨Nat.sub_le _ _, hposition, fun hlength => ?_⟩
  rw [Fault.ofMessage_misread what left hlength, hposition]

end JsonDesk
