import JsonDesk.Proofs.Messages

/-!
The place that a message names, by a line and a column or else by an offset.  Whatever the message
is, a text gets a diagnosis with a hint, unless no check finds anything and one of the numbers that
name the place has more digits than an integer is converted from.
-/

set_option autoImplicit false

namespace JsonDesk

namespace Text

variable {α : Type} {t : Text} {x : α}

/-! ### What is named -/

/-- At the front a line and a column are named by these digits. -/
def NamesPoint (t : Text) (p : Text × Text) : Prop :=
  ∃ r, t = "line " ++ (p.1 ++ (" column " ++ (p.2 ++ r))) ∧ Decimals p.1 ∧ Decimals p.2 ∧
    ∀ c ∈ r.head?, c.isDecimal = false

/-- At the front an offset is named by these digits. -/
def NamesOffset (t p : Text) : Prop :=
  ∃ r, t = "position " ++ (p ++ r) ∧ Decimals p ∧ ∀ c ∈ r.head?, c.isDecimal = false

/-- What a text has at the leftmost of the places where it has anything. -/
def Leftmost (Has : Text → α → Prop) (t : Text) (x : α) : Prop :=
  ∃ front back, t = front ++ back ∧ Has back x ∧
    ∀ front' back', t = front' ++ back' → front'.length < front.length → ∀ y, ¬ Has back' y

/-- What a text has nowhere. -/
def Nowhere (Has : Text → α → Prop) (t : Text) : Prop :=
  ∀ front back, t = front ++ back → ∀ x, ¬ Has back x

/-- The numbers by which a message names its place: a line and a column, or an offset if it names no
line and column anywhere. -/
inductive Names (message : Text) : List Text → Prop
  | point {l c : Text} : Leftmost NamesPoint message (l, c) → Names message [l, c]
  | offset {p : Text} : Nowhere NamesPoint message → Leftmost NamesOffset message p →
    Names message [p]

theorem lineColumn?_eq_some_iff {p : Text × Text} :
    lineColumn? t = some p ↔ NamesPoint t p := by
  obtain ⟨l, c⟩ := p
  simp only [lineColumn?, Option.bind_eq_bind, Option.bind_eq_some_iff, after?_eq_some_iff,
    Prod.exists, decimals?_eq_some_iff]
  constructor
  · rintro ⟨u, rfl, l', u', ⟨rfl, hl, -⟩, v, rfl, c', r, ⟨rfl, hc, hr⟩, hp⟩
    cases hp
    exact ⟨r, rfl, hl, hc, hr⟩
  · rintro ⟨r, rfl, hl, hc, hr⟩
    -- the space behind the line ends its digits
    exact ⟨_, rfl, l, _, ⟨rfl, hl, by simp [ofString]; decide⟩, _, rfl, c, r, ⟨rfl, hc, hr⟩, rfl⟩

theorem position?_eq_some_iff {p : Text} : position? t = some p ↔ NamesOffset t p := by
  simp only [position?, Option.bind_eq_bind, Option.bind_eq_some_iff, after?_eq_some_iff,
    Prod.exists, decimals?_eq_some_iff]
  constructor
  · rintro ⟨u, rfl, p', r, ⟨rfl, hp, hr⟩, heq⟩
    cases heq
    exact ⟨r, rfl, hp, hr⟩
  · rintro ⟨r, rfl, hp, hr⟩
    exact ⟨_, rfl, p, r, ⟨rfl, hp, hr⟩, rfl⟩

/-! ### Searching from the left -/

section

variable {find? : Text → Option α} {Has : Text → α → Prop}

theorem nowhere_cons_iff {c : CodePoint} :
    Nowhere Has (c :: t) ↔ (∀ x, ¬ Has (c :: t) x) ∧ Nowhere Has t := by
  constructor
  · exact fun h => ⟨h [] _ rfl, fun front back ht => h (c :: front) back (by rw [ht]; rfl)⟩
  · rintro ⟨hhere, hlater⟩ front back ht
    cases front with
    | nil =>
      cases ht
      exact hhere
    | cons d front =>
      cases ht
      exact hlater front back rfl

theorem leftmost_cons_iff {c : CodePoint} :
    Leftmost Has (c :: t) x ↔ Has (c :: t) x ∨ (∀ y, ¬ Has (c :: t) y) ∧ Leftmost Has t x := by
  constructor
  · rintro ⟨front, back, ht, hx, hleft⟩
    cases front with
    | nil =>
      cases ht
      exact .inl hx
    | cons d front =>
      cases ht
      refine .inr ⟨hleft [] _ rfl (Nat.zero_lt_succ _), front, back, rfl, hx, ?_⟩
      exact fun front' back' ht hlt =>
        hleft (c :: front') back' (by rw [ht]; rfl) (Nat.succ_lt_succ hlt)
  · rintro (hx | ⟨hhere, front, back, rfl, hx, hleft⟩)
    · exact ⟨[], _, rfl, hx, fun _ _ _ hlt => absurd hlt (Nat.not_lt_zero _)⟩
    · refine ⟨c :: front, back, rfl, hx, fun front' back' ht hlt => ?_⟩
      cases front' with
      | nil =>
        cases ht
        exact hhere
      | cons d front' =>
        obtain ⟨-, ht⟩ := List.cons.inj ht
        exact hleft front' back' ht (Nat.lt_of_succ_lt_succ hlt)

theorem nowhere_nil_iff : Nowhere Has [] ↔ ∀ x, ¬ Has [] x := by
  constructor
  · exact fun h => h [] [] rfl
  · intro h front back ht
    obtain ⟨-, rfl⟩ := List.append_eq_nil_iff.mp ht.symm
    exact h

theorem leftmost_nil_iff : Leftmost Has [] x ↔ Has [] x := by
  constructor
  · rintro ⟨front, back, ht, hx, -⟩
    obtain ⟨-, rfl⟩ := List.append_eq_nil_iff.mp ht.symm
    exact hx
  · exact fun hx => ⟨[], [], rfl, hx, fun _ _ _ hlt => absurd hlt (Nat.not_lt_zero _)⟩

theorem eq_none_iff (hfind : ∀ t x, find? t = some x ↔ Has t x) :
    find? t = none ↔ ∀ x, ¬ Has t x := by
  simp only [Option.eq_none_iff_forall_ne_some, ne_eq, hfind]

theorem search_eq_none_iff (hfind : ∀ t x, find? t = some x ↔ Has t x) :
    search find? t = none ↔ Nowhere Has t := by
  induction t with
  | nil => rw [search, eq_none_iff hfind, nowhere_nil_iff]
  | cons c t ih =>
    rw [search, nowhere_cons_iff, ← ih, ← eq_none_iff hfind]
    cases find? (c :: t) <;> simp

theorem search_eq_some_iff (hfind : ∀ t x, find? t = some x ↔ Has t x) :
    search find? t = some x ↔ Leftmost Has t x := by
  induction t with
  | nil => rw [search, hfind, leftmost_nil_iff]
  | cons c t ih =>
    rw [search, leftmost_cons_iff, ← ih, ← eq_none_iff hfind, ← hfind]
    cases find? (c :: t) <;> simp

end

theorem search_lineColumn?_eq_none_iff :
    search lineColumn? t = none ↔ Nowhere NamesPoint t :=
  search_eq_none_iff fun _ _ => lineColumn?_eq_some_iff

theorem search_lineColumn?_eq_some_iff {p : Text × Text} :
    search lineColumn? t = some p ↔ Leftmost NamesPoint t p :=
  search_eq_some_iff fun _ _ => lineColumn?_eq_some_iff

theorem search_position?_eq_some_iff {p : Text} :
    search position? t = some p ↔ Leftmost NamesOffset t p :=
  search_eq_some_iff fun _ _ => position?_eq_some_iff

/-! ### The numbers of a message -/

theorem Leftmost.exists_has {Has : Text → α → Prop} (h : Leftmost Has t x) : ∃ u, Has u x := by
  obtain ⟨front, back, -, hx, -⟩ := h
  exact ⟨back, hx⟩

theorem Names.decimals {message n : Text} {ns : List Text} (h : Names message ns) (hn : n ∈ ns) :
    Decimals n := by
  cases h with
  | point hpoint =>
    obtain ⟨u, r, -, hl, hc, -⟩ := hpoint.exists_has
    rcases List.mem_cons.mp hn with rfl | hn
    · exact hl
    · exact List.mem_singleton.mp hn ▸ hc
  | offset _ hoffset =>
    obtain ⟨u, r, -, hp, -⟩ := hoffset.exists_has
    exact List.mem_singleton.mp hn ▸ hp

/-- The leftmost is one, for it is what a search finds. -/
theorem Names.unique {message : Text} {ns ns' : List Text} (h : Names message ns)
    (h' : Names message ns') : ns = ns' := by
  cases h with
  | point hpoint =>
    have hfound := search_lineColumn?_eq_some_iff.mpr hpoint
    cases h' with
    | point hpoint' =>
      cases hfound.symm.trans (search_lineColumn?_eq_some_iff.mpr hpoint')
      rfl
    | offset hnowhere' _ =>
      cases hfound.symm.trans (search_lineColumn?_eq_none_iff.mpr hnowhere')
  | offset hnowhere hoffset =>
    have hnone := search_lineColumn?_eq_none_iff.mpr hnowhere
    have hfound := search_position?_eq_some_iff.mpr hoffset
    cases h' with
    | point hpoint' =>
      cases hnone.symm.trans (search_lineColumn?_eq_some_iff.mpr hpoint')
    | offset _ hoffset' =>
      cases hfound.symm.trans (search_position?_eq_some_iff.mpr hoffset')
      rfl

end Text

namespace Diagnosis
open Text

variable {text message : Text}

theorem ofMessage_of_not_names (h : ∀ ns, ¬ message.Names ns) :
    ofMessage text message = .ok ⟨.unknown, .lookAround⟩ := by
  have hpoint : message.search lineColumn? = none :=
    Option.eq_none_iff_forall_ne_some.mpr fun p hp =>
      h _ (.point (search_lineColumn?_eq_some_iff.mp hp))
  have hnowhere := search_lineColumn?_eq_none_iff.mp hpoint
  have hoffset : message.search position? = none :=
    Option.eq_none_iff_forall_ne_some.mpr fun p hp =>
      h _ (.offset hnowhere (search_position?_eq_some_iff.mp hp))
  rw [ofMessage, hpoint, hoffset]

theorem ofMessage_of_names (text : Text) {ns : List Text} (h : message.Names ns) :
    match ns.find? (maxDigits < ·.length) with
    | some n => ofMessage text message = .error (.tooManyDigits n.length)
    | none => ∃ p, ofMessage text message = .ok ⟨.point p, .lookHere⟩ := by
  have convert {n : Text} (hn : n ∈ ns) : n.toInt =
      if maxDigits < n.length then .error (.tooManyDigits n.length)
      else .ok (ofDigits (n.map fun c => c.decimal?.getD 0)) :=
    toInt_of_decimals (h.decimals hn).2 (h.decimals hn).1
  cases h with
  | @point l c hpoint =>
    rw [ofMessage, search_lineColumn?_eq_some_iff.mpr hpoint]
    simp only [convert (.head _), convert (.tail _ (.head _))]
    by_cases hl : maxDigits < l.length
    · simp [hl, bind, Except.bind]
    · by_cases hc : maxDigits < c.length
      · simp [hl, hc, bind, Except.bind]
      · simp [hl, hc, bind, Except.bind, pure, Except.pure]
  | @offset p hnowhere hoffset =>
    rw [ofMessage, search_lineColumn?_eq_none_iff.mpr hnowhere,
      search_position?_eq_some_iff.mpr hoffset]
    simp only [convert (.head _)]
    by_cases hp : maxDigits < p.length
    · simp [hp, bind, Except.bind]
    · simp [hp, bind, Except.bind, pure, Except.pure]

end Diagnosis

theorem Check.run_nil (check : Check) (message : Text) :
    check.run [] (Text.lines []) message = none := by
  cases check with
  | unterminatedString => exact ite_self none
  | _ => rfl

/-- No check finds anything in the empty text, so there a number that is too long is not kept from
being converted. -/
theorem diagnose_nil_of_overlong {message l c : Text} (h : message.NamesPoint (l, c))
    (hover : maxDigits < l.length) : diagnose [] message = .error (.tooManyDigits l.length) := by
  have hnames : message.Names [l, c] :=
    .point ⟨[], message, rfl, h, fun _ _ _ hlt => absurd hlt (Nat.not_lt_zero _)⟩
  have hsilent : (Check.all.findSome? fun check => check.run [] (Text.lines []) message) = none :=
    List.findSome?_eq_none_iff.mpr fun check _ => Check.run_nil check message
  have hconverted := Diagnosis.ofMessage_of_names [] hnames
  rw [List.find?_cons_of_pos (by simpa using hover)] at hconverted
  rw [diagnose, hsilent]
  exact hconverted

/-- Every text and message get a diagnosis with a hint, unless no check finds anything and one of the
numbers by which the message names a place is too long to be converted.  The failure then tells how
long that number is. -/
theorem diagnose_unless_overlong (text message : Text) :
    ((∃ d, diagnose text message = .ok d ∧ d.hint.text ≠ []) ↔
      (∃ check ∈ Check.all, check.run text text.lines message ≠ none) ∨
        ∀ ns, message.Names ns → ∀ n ∈ ns, n.length ≤ maxDigits) ∧
    ∀ e, diagnose text message = .error e → ∃ ns, message.Names ns ∧ ∃ n ∈ ns,
      maxDigits < n.length ∧ e = .tooManyDigits n.length := by
  rw [diagnose]
  split
  · next d hfound =>
    obtain ⟨check, hcheck, hrun⟩ := List.exists_of_findSome?_eq_some hfound
    have hsome : check.run text text.lines message ≠ none := by rw [hrun]; simp
    exact ⟨iff_of_true ⟨d, rfl, d.hint.text_ne_nil⟩ (.inl ⟨check, hcheck, hsome⟩),
      fun e he => by cases he⟩
  · next hnone =>
    have hsilent : ¬ ∃ check ∈ Check.all, check.run text text.lines message ≠ none := by
      rintro ⟨check, hcheck, hsome⟩
      exact hsome (List.findSome?_eq_none_iff.mp hnone check hcheck)
    rw [or_iff_right hsilent]
    by_cases hnames : ∃ ns, message.Names ns
    · obtain ⟨ns, hns⟩ := hnames
      have hconverted := Diagnosis.ofMessage_of_names text hns
      split at hconverted
      · next n hlong =>
        have hn := List.mem_of_find?_eq_some hlong
        have hover : maxDigits < n.length := by simpa using List.find?_some hlong
        rw [hconverted]
        refine ⟨iff_of_false ?_ fun hall => ?_, fun e he => ?_⟩
        · rintro ⟨d, hd, -⟩
          cases hd
        · exact absurd (hall ns hns n hn) (Nat.not_le.mpr hover)
        · cases he
          exact ⟨ns, hns, n, hn, hover, rfl⟩
      · next hshort =>
        obtain ⟨p, hp⟩ := hconverted
        rw [hp]
        refine ⟨iff_of_true ⟨_, rfl, Hint.text_ne_nil _⟩ fun ns' hns' n hn => ?_,
          fun e he => by cases he⟩
        rw [hns'.unique hns] at hn
        simpa using List.find?_eq_none.mp hshort n hn
    · have hnot := not_exists.mp hnames
      rw [Diagnosis.ofMessage_of_not_names hnot]
      exact ⟨iff_of_true ⟨_, rfl, Hint.text_ne_nil _⟩ fun ns hns => absurd hns (hnot ns),
        fun e he => by cases he⟩

end JsonDesk
