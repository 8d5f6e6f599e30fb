import JsonDesk.Text.Blank
import Mathlib.Data.List.Basic

set_option autoImplicit false

namespace JsonDesk

namespace Text

variable {p : CodePoint → Bool} {a b t u : Text} {c : CodePoint}

theorem isPrefix_dropRightWhile (p : CodePoint → Bool) (t : Text) : t.dropRightWhile p <+: t := by
  rw [dropRightWhile, ← List.reverse_suffix, List.reverse_reverse]
  exact List.dropWhile_suffix p

theorem dropWhile_eq_self (h : ∀ c ∈ t.head?, p c = false) : t.dropWhile p = t := by
  cases t with
  | nil => rfl
  | cons c t => rw [List.dropWhile_cons_of_neg (by simp [h c rfl])]

theorem head_dropWhile (p : CodePoint → Bool) (t : Text) :
    ∀ c ∈ (t.dropWhile p).head?, p c = false := by
  intro c hc
  have hhead := List.head?_dropWhile_not p t
  rw [hc] at hhead
  simpa using hhead

theorem getLast_dropRightWhile (p : CodePoint → Bool) (t : Text) :
    ∀ c ∈ (t.dropRightWhile p).getLast?, p c = false := by
  rw [dropRightWhile, List.getLast?_reverse]
  exact head_dropWhile p t.reverse

theorem dropRightWhile_append (hb : ∀ c ∈ b, p c = true) (hu : ∀ c ∈ u.getLast?, p c = false) :
    (u ++ b).dropRightWhile p = u := by
  have hb' : ∀ c ∈ b.reverse, p c = true := fun c hc => hb c (List.mem_reverse.mp hc)
  rw [dropRightWhile, List.reverse_append, List.dropWhile_append_of_pos hb']
  rw [← List.head?_reverse] at hu
  cases hr : u.reverse with
  | nil => simpa using hr.symm
  | cons c r =>
    rw [hr] at hu
    rw [List.dropWhile_cons, hu c rfl, ← hr]
    simp

theorem exists_dropRightWhile (p : CodePoint → Bool) (t : Text) :
    ∃ b, (∀ c ∈ b, p c = true) ∧ t = t.dropRightWhile p ++ b ∧
      ∀ c ∈ (t.dropRightWhile p).getLast?, p c = false := by
  refine ⟨(t.reverse.takeWhile p).reverse, fun c hc => ?_, ?_, getLast_dropRightWhile p t⟩
  · exact List.all_eq_true.mp List.all_takeWhile c (List.mem_reverse.mp hc)
  · rw [dropRightWhile, ← List.reverse_append, List.takeWhile_append_dropWhile,
      List.reverse_reverse]

theorem head_trim (p : CodePoint → Bool) (t : Text) : ∀ c ∈ (t.trim p).head?, p c = false := by
  intro c hc
  obtain ⟨r, hr⟩ := isPrefix_dropRightWhile p (t.dropWhile p)
  refine head_dropWhile p t c ?_
  rw [← hr]
  exact List.mem_head?_append_of_mem_head? hc

theorem getLast_trim (p : CodePoint → Bool) (t : Text) :
    ∀ c ∈ (t.trim p).getLast?, p c = false :=
  getLast_dropRightWhile p (t.dropWhile p)

theorem trim_infix (p : CodePoint → Bool) (t : Text) : t.trim p <:+: t :=
  (isPrefix_dropRightWhile _ _).isInfix.trans (List.dropWhile_suffix _).isInfix

/-! ### White space -/

theorem strip_infix (t : Text) : t.strip <:+: t := trim_infix _ t

theorem strip_eq_self (hfirst : ∀ c ∈ t.head?, c.isBlank = false)
    (hlast : ∀ c ∈ t.getLast?, c.isBlank = false) : t.strip = t := by
  rw [strip, trim, dropWhile_eq_self hfirst, dropRightWhile, dropWhile_eq_self, List.reverse_reverse]
  rw [List.head?_reverse]
  exact hlast

theorem mem_strip (hc : c.isBlank = false) (h : c ∈ t) : c ∈ t.strip := by
  have hsplit := List.takeWhile_append_dropWhile (p := CodePoint.isBlank) (l := t)
  obtain ⟨b, hb, htail, -⟩ := exists_dropRightWhile CodePoint.isBlank (t.dropWhile CodePoint.isBlank)
  rw [← hsplit, htail] at h
  have blank {u : Text} (hu : ∀ d ∈ u, d.isBlank = true) (hmem : c ∈ u) : False := by
    rw [hu c hmem] at hc
    cases hc
  rcases List.mem_append.mp h with h | h
  · exact (blank (fun d hd => List.all_eq_true.mp List.all_takeWhile d hd) h).elim
  · rcases List.mem_append.mp h with h | h
    · exact h
    · exact (blank hb h).elim

theorem strip_strip (t : Text) : t.strip.strip = t.strip :=
  strip_eq_self (head_trim _ t) (getLast_trim _ t)

theorem stripRight_append (hb : ∀ c ∈ b, c.isBlank = true)
    (hu : ∀ c ∈ u.getLast?, c.isBlank = false) : stripRight (u ++ b) = u :=
  dropRightWhile_append hb hu

theorem exists_stripRight (t : Text) : ∃ b, (∀ c ∈ b, c.isBlank = true) ∧
    t = stripRight t ++ b ∧ ∀ c ∈ (stripRight t).getLast?, c.isBlank = false :=
  exists_dropRightWhile CodePoint.isBlank t

theorem stripRight_ne_nil (hc : c.isBlank = false) (t : Text) : stripRight (c :: t) ≠ [] := by
  obtain ⟨b, hb, hsplit, -⟩ := exists_stripRight (c :: t)
  intro hnil
  rw [hnil, List.nil_append] at hsplit
  rw [hb c (hsplit ▸ .head _)] at hc
  cases hc

theorem strip_append (ha : ∀ c ∈ a, c.isBlank = true) (hc : c.isBlank = false) (t : Text) :
    strip (a ++ c :: t) = stripRight (c :: t) := by
  rw [strip, trim, List.dropWhile_append_of_pos ha, List.dropWhile_cons, hc]
  rfl

theorem exists_strip (h : t.strip ≠ []) : ∃ a c z, (∀ d ∈ a, d.isBlank = true) ∧
    c.isBlank = false ∧ t = a ++ c :: z ∧ t.strip = stripRight (c :: z) := by
  have hsplit := List.takeWhile_append_dropWhile (p := CodePoint.isBlank) (l := t)
  have ha : ∀ d ∈ t.takeWhile CodePoint.isBlank, d.isBlank = true := fun d hd =>
    List.all_eq_true.mp List.all_takeWhile d hd
  have hhead := List.head?_dropWhile_not CodePoint.isBlank t
  cases hz : t.dropWhile CodePoint.isBlank with
  | nil =>
    rw [strip, trim, hz] at h
    exact absurd rfl h
  | cons c z =>
    rw [hz] at hsplit hhead
    have hc : c.isBlank = false := by simpa using hhead
    refine ⟨_, c, z, ha, hc, hsplit.symm, ?_⟩
    rw [← hsplit, strip_append ha hc]

theorem head?_stripRight (hc : c.isBlank = false) (t : Text) :
    (stripRight (c :: t)).head? = some c := by
  obtain ⟨b, -, hsplit, -⟩ := exists_stripRight (c :: t)
  obtain ⟨d, s, hs⟩ := List.exists_cons_of_ne_nil (stripRight_ne_nil hc t)
  rw [hs] at hsplit ⊢
  obtain ⟨rfl, -⟩ := List.cons.inj hsplit
  rfl

/-! ### What can be seen -/

/-- So much of a text can be seen. -/
def visible (t : Text) : Nat := t.countP fun c => !c.isBlank

@[simp] theorem visible_append (t u : Text) : visible (t ++ u) = t.visible + u.visible :=
  List.countP_append

theorem visible_strip (t : Text) : t.strip.visible = t.visible := by
  have hblank {u : Text} (hu : ∀ c ∈ u, c.isBlank = true) : u.visible = 0 :=
    List.countP_eq_zero.mpr fun c hc => by simp [hu c hc]
  obtain ⟨b, hb, htail, -⟩ :=
    exists_dropRightWhile CodePoint.isBlank (t.dropWhile CodePoint.isBlank)
  have hfront : ∀ c ∈ t.takeWhile CodePoint.isBlank, c.isBlank = true := fun c hc =>
    List.all_eq_true.mp List.all_takeWhile c hc
  have hsplit : t = t.takeWhile CodePoint.isBlank ++ (t.strip ++ b) := by
    rw [strip, trim, ← htail, List.takeWhile_append_dropWhile]
  have hcount := congrArg visible hsplit
  rw [visible_append, visible_append, hblank hfront, hblank hb] at hcount
  omega

theorem prefix_strip {s : Text} {d : CodePoint} (hd : d.isBlank = false) (hc : c.isBlank = false) :
    d :: s <+: strip (d :: s ++ c :: t) := by
  have hstrip : strip (d :: s ++ c :: t) = stripRight (d :: s ++ c :: t) :=
    strip_append (a := []) (fun _ h => by cases h) hd _
  obtain ⟨b, hb, hsplit, -⟩ := exists_stripRight (d :: s ++ c :: t)
  rw [hstrip]
  rcases List.append_eq_append_iff.mp hsplit with ⟨a, ha, -⟩ | ⟨a, -, rfl⟩
  · exact ⟨a, ha.symm⟩
  · rw [hb c (by simp)] at hc
    cases hc

end Text

end JsonDesk
