import JsonDesk.Proofs.Completeness
import JsonDesk.Proofs.Tokens

/-!
How deep the containers of a text nest, counted by a scanner that only knows brackets and strings.
For documents the scanner agrees with the derivation, so that a text of which it says that it is
shallow has no deep derivation.
-/

set_option autoImplicit false

namespace JsonDesk

/-- What is open at a place of a text, and the most that was open so far. -/
structure Nesting where
  depth : Nat
  deepest : Nat
  quoted : Bool
  escaped : Bool

namespace Nesting

def outside (depth deepest : Nat) : Nesting := ⟨depth, deepest, false, false⟩

def step (s : Nesting) (c : CodePoint) : Nesting :=
  if s.escaped then { s with escaped := false }
  else if s.quoted then
    if c = '\\' then { s with escaped := true }
    else if c = '"' then { s with quoted := false }
    else s
  else if c = '"' then { s with quoted := true }
  else if c = '[' ∨ c = '\x7b' then
    { s with depth := s.depth + 1, deepest := max s.deepest (s.depth + 1) }
  else if c = ']' ∨ c = '\x7d' then { s with depth := s.depth - 1 }
  else s

end Nesting

def Text.nesting (t : Text) : Nat := (t.foldl Nesting.step (.outside 0 0)).deepest

namespace Nesting
open Grammar

/-- Code points that open and close nothing. -/
def Inert (c : CodePoint) : Prop := c ∉ Text.ofString "\"[]\x7b\x7d"

instance (c : CodePoint) : Decidable (Inert c) := inferInstanceAs (Decidable (¬ _))

theorem foldl_inert {t : Text} (h : ∀ c ∈ t, Inert c) (depth deepest : Nat) :
    t.foldl step (outside depth deepest) = outside depth deepest := by
  induction t with
  | nil => rfl
  | cons c t ih =>
    have hc : Inert c := h c (by simp)
    simp only [Inert, Text.ofString, String.reduceToList, List.map_cons, List.map_nil,
      List.mem_cons, List.not_mem_nil, or_false, not_or] at hc
    rw [List.foldl_cons, show step (outside depth deepest) c = outside depth deepest by
      simp [step, outside, hc]]
    exact ih fun d hd => h d (by simp [hd])

theorem inert_of_gap {g : Text} (hg : Gap g) : ∀ c ∈ g, Inert c := by
  intro c hc
  rcases hg c hc with rfl | rfl | rfl | rfl <;> decide

theorem inert_of_atomic {c : CodePoint} (h : Atomic c) : Inert c := by
  intro hc
  have all : ∀ d ∈ Text.ofString "\"[]\x7b\x7d", ¬ Atomic d := by decide
  exact all c hc h

theorem foldl_quoted {w : Text} (h : Quoted w) (depth deepest : Nat) :
    w.foldl step ⟨depth, deepest, true, false⟩ = ⟨depth, deepest, true, false⟩ := by
  induction h with
  | nil => rfl
  | plain hq hb _ _ ih => simpa [step, hq, hb] using ih
  | escaped _ _ ih => simpa [step] using ih

theorem foldl_string {w : Text} (h : Quoted w) (depth deepest : Nat) :
    ("\"" ++ w ++ "\"" : Text).foldl step (outside depth deepest) = outside depth deepest := by
  have hopen : step (outside depth deepest) '"' = ⟨depth, deepest, true, false⟩ := by
    simp [step, outside]
  have hclose : step ⟨depth, deepest, true, false⟩ '"' = outside depth deepest := by
    simp [step, outside]
  simp [Text.ofString, hopen, foldl_quoted h, hclose]

/-- After the text as much is open as before it, and what is known of the deepest place in it. -/
def Scans (t : Text) (P : Nat → Prop) : Prop :=
  ∀ depth deepest, depth ≤ deepest → ∃ m, deepest ≤ m ∧
    t.foldl step (outside depth deepest) = outside depth m ∧ P (m - depth)

theorem Scans.of_inert {t : Text} {P : Nat → Prop} (h : ∀ c ∈ t, Inert c) (hP : ∀ n, P n) :
    Scans t P :=
  fun depth deepest _ => ⟨deepest, Nat.le_refl _, foldl_inert h depth deepest, hP _⟩

theorem Scans.imp {t : Text} {P Q : Nat → Prop} (h : Scans t P) (hPQ : ∀ n, P n → Q n) :
    Scans t Q := by
  intro depth deepest hd
  obtain ⟨m, hm, hscan, hP⟩ := h depth deepest hd
  exact ⟨m, hm, hscan, hPQ _ hP⟩

theorem Scans.append {t u : Text} {P Q : Nat → Prop} (ht : Scans t P) (hu : Scans u Q)
    (hP : ∀ {n m}, n ≤ m → P n → P m) : Scans (t ++ u) fun n => P n ∧ Q n := by
  intro depth deepest hd
  obtain ⟨m, hm, hscan, h⟩ := ht depth deepest hd
  obtain ⟨k, hk, hscan', h'⟩ := hu depth m (Nat.le_trans hd hm)
  exact ⟨k, Nat.le_trans hm hk, by rw [List.foldl_append, hscan, hscan'],
    hP (Nat.sub_le_sub_right hk depth) h, h'⟩

/-- The text is followed by the scanner without anything being learned. -/
def Closed (t : Text) : Prop := Scans t fun _ => True

theorem Closed.then {t u : Text} {P : Nat → Prop} (ht : Closed t) (hu : Scans u P) :
    Scans (t ++ u) P :=
  (ht.append hu fun _ _ => trivial).imp fun _ h => h.2

theorem Scans.between {t u w : Text} {P : Nat → Prop} (ht : Closed t) (hu : Scans u P)
    (hw : Closed w) (hP : ∀ {n m}, n ≤ m → P n → P m) : Scans (t ++ u ++ w) P :=
  ((ht.then hu).append hw hP).imp fun _ h => h.1

theorem closed_gap {g : Text} (hg : Gap g) : Closed g :=
  .of_inert (inert_of_gap hg) fun _ => trivial

theorem closed_string {w : Text} (h : Quoted w) : Closed ("\"" ++ w ++ "\"") :=
  fun depth deepest _ => ⟨deepest, Nat.le_refl _, foldl_string h depth deepest, trivial⟩

theorem closed_comma : Closed "," := .of_inert (by decide) fun _ => trivial

theorem scans_commas {α : Type} (spelled : α → Text) (P : α → Nat → Prop)
    (mono : ∀ {a n m}, n ≤ m → P a n → P a m) {as : List α}
    (h : ∀ a ∈ as, Scans (spelled a) (P a)) :
    Scans (commas (as.map spelled)) fun n => ∀ a ∈ as, P a n := by
  induction as with
  | nil => exact .of_inert (by simp [commas, Text.join]) (by simp)
  | cons a as ih =>
    have ha := h a (by simp)
    have has := ih fun b hb => h b (by simp [hb])
    by_cases hne : as = []
    · subst hne
      simpa using ha
    · rw [List.map_cons, commas_cons _ (by simpa using hne)]
      refine ((ha.append closed_comma mono).append has fun h => .imp_left (mono h)).imp ?_
      rintro n ⟨⟨ha, -⟩, has⟩ b hb
      rcases List.mem_cons.mp hb with rfl | hb
      · exact ha
      · exact has b hb

theorem Scans.container {t : Text} {o c : CodePoint} {P Q : Nat → Prop}
    (ho : o = CodePoint.ofChar '[' ∨ o = CodePoint.ofChar '\x7b')
    (hc : c = CodePoint.ofChar ']' ∨ c = CodePoint.ofChar '\x7d') (ht : Scans t P)
    (hPQ : ∀ n, P n → Q (n + 1)) : Scans (o :: t ++ [c]) Q := by
  intro depth deepest hd
  have hopen : step (outside depth deepest) o = outside (depth + 1) (max deepest (depth + 1)) := by
    rcases ho with rfl | rfl <;> simp [step, outside]
  obtain ⟨m, hm, hscan, hP⟩ := ht (depth + 1) (max deepest (depth + 1)) (Nat.le_max_right ..)
  have hclose : step (outside (depth + 1) m) c = outside depth m := by
    rcases hc with rfl | rfl <;> simp [step, outside]
  have hle : max deepest (depth + 1) ≤ m := hm
  refine ⟨m, by omega, by simp [hopen, hscan, hclose], ?_⟩
  rw [show m - depth = m - (depth + 1) + 1 by omega]
  exact hPQ _ hP

theorem scans_value {how : Reading} {n : Nat} {w : Text} {v : Json} (h : Value how n w v) :
    Scans w fun n => Value how n w v := by
  induction h with
  | null => exact .of_inert (by decide) fun _ => .null
  | yes => exact .of_inert (by decide) fun _ => .yes
  | no => exact .of_inert (by decide) fun _ => .no
  | constant hc =>
    exact .of_inert (fun c h => inert_of_atomic (atomic_word _ c h)) fun _ => .constant hc
  | number hm hv =>
    exact .of_inert (fun c h => inert_of_atomic (hm.atomic c h)) fun _ => .number hm hv
  | string hw =>
    exact fun depth deepest _ =>
      ⟨deepest, Nat.le_refl _, foldl_string hw.quoted depth deepest, .string hw⟩
  | emptyArray hg =>
    exact .container (.inl rfl) (.inl rfl) (closed_gap hg) fun _ _ => .emptyArray hg
  | array hne hs hval ih =>
    refine .container (.inl rfl) (.inl rfl) (scans_commas Element.spelled
      (fun e n => Value how n e.text e.value) (fun h hv => hv.mono h) fun e he => ?_)
      fun n h => .array hne hs h
    exact .between (closed_gap (hs e he).1) (ih e he) (closed_gap (hs e he).2) fun h hv => hv.mono h
  | emptyObject hg =>
    exact .container (.inr rfl) (.inr rfl) (closed_gap hg) fun _ _ => .emptyObject hg
  | object hne hs hb hval ih =>
    refine .container (.inr rfl) (.inr rfl) (scans_commas Field.spelled
      (fun f n => Value how n f.element.text f.element.value) (fun h hv => hv.mono h)
      fun f hf => ?_) fun n h => .object hne hs hb h
    obtain ⟨hbefore, hafter, hbefore', hafter'⟩ := hs f hf
    have hcolon : Closed ":" := .of_inert (by decide) fun _ => trivial
    have hname : Closed (f.before ++ ("\"" ++ f.body ++ "\"")) :=
      (closed_gap hbefore).then (closed_string (hb f hf).quoted)
    have hlead : Closed (f.before ++ ("\"" ++ f.body ++ "\"") ++ f.after) :=
      hname.then (closed_gap hafter)
    have hlead : Closed (f.before ++ ("\"" ++ f.body ++ "\"") ++ f.after ++ ":") :=
      hlead.then hcolon
    have helem : Scans f.element.spelled fun n => Value how n f.element.text f.element.value :=
      .between (closed_gap hbefore') (ih f hf) (closed_gap hafter') fun h hv => hv.mono h
    have hshape : f.spelled = f.before ++ ("\"" ++ f.body ++ "\"") ++ f.after ++ ":" ++
        f.element.spelled := by simp [Field.spelled]
    rw [hshape]
    exact hlead.then helem

end Nesting

namespace Grammar

/-- No derivation of a document has to be deeper than its text is nested. -/
theorem Document.nesting {how : Reading} {n : Nat} {t : Text} {v : Json} (h : Document how n t v) :
    Document how t.nesting t v := by
  obtain @⟨e, hs, hv⟩ := h
  obtain ⟨m, -, hscan, hm⟩ := Nesting.Scans.between (Nesting.closed_gap hs.1)
    (Nesting.scans_value hv) (Nesting.closed_gap hs.2) (fun h hv => hv.mono h) 0 0 (Nat.le_refl 0)
  refine .mk hs ?_
  rw [Text.nesting, Element.spelled, hscan]
  exact hm

end Grammar

end JsonDesk
