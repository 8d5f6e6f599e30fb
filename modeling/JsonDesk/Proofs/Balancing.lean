import JsonDesk.Diagnosis.Brackets
import Mathlib.Data.List.Induction

/-!
What the scan of brackets decides.  The delimiters outside strings are a word over two kinds of
brackets, and the scan is silent just if that word is balanced.  If it is not, there is either a
shortest beginning of it that nothing can complete, whose last closing delimiter is reported, or an
opening delimiter behind which everything is matched, and that one is reported as unclosed.
-/

set_option autoImplicit false

namespace JsonDesk

structure Delimiter where
  bracket : Bracket
  opens : Bool
  position : Position
deriving DecidableEq

namespace Text

/-- The code points of the lines, each at its position; the line feeds are left out. -/
def placed (t : Text) : List (Position × CodePoint) :=
  (t.lines.mapIdx fun i l => l.mapIdx fun j c => (⟨i + 1, j + 1⟩, c)).flatten

/-- What stands outside strings.  A backslash takes the code point behind it along, and a double
quote that is not taken starts or ends a string. -/
def unquoted : (quoted : Bool) → List (Position × CodePoint) → List (Position × CodePoint)
  | _, [] => []
  | quoted, a :: rest =>
    if a.2 = '\\' then
      match rest with
      | [] => []
      | _ :: rest => unquoted quoted rest
    else if a.2 = '"' then unquoted (!quoted) rest
    else if quoted then unquoted quoted rest
    else a :: unquoted quoted rest

end Text

namespace Delimiter

def of? (a : Position × CodePoint) : Option Delimiter :=
  match Bracket.ofOpener? a.2 with
  | some b => some ⟨b, true, a.1⟩
  | none => (Bracket.ofCloser? a.2).map (⟨·, false, a.1⟩)

/-- Everything that is opened is closed again, by its own kind and in the right order. -/
inductive Balanced : List Delimiter → Prop
  | nil : Balanced []
  | pair {o c : Delimiter} {u v : List Delimiter} :
    o.opens = true → c.opens = false → o.bracket = c.bracket → Balanced u → Balanced v →
      Balanced (o :: u ++ c :: v)

/-- Something makes it balanced when it is put behind it. -/
def Extendable (ds : List Delimiter) : Prop := ∃ rest, Balanced (ds ++ rest)

/-- The innermost opening delimiter that is not matched: everything behind it is. -/
def Innermost (ds : List Delimiter) (o : Delimiter) : Prop :=
  o.opens = true ∧ ∃ front back, ds = front ++ o :: back ∧ Balanced back

end Delimiter

def Text.delimiters (t : Text) : List Delimiter := (unquoted false t.placed).filterMap Delimiter.of?

namespace Delimiter

/-! ### Matching on a stack -/

/-- Takes a delimiter; what is open stands on a stack, the innermost first. -/
def take (opened : List Delimiter) (d : Delimiter) : Except Diagnosis (List Delimiter) :=
  if d.opens then .ok (d :: opened)
  else match opened with
    | [] => .error ⟨.point d.position, .unexpectedCloser d.bracket⟩
    | o :: rest =>
      if o.bracket = d.bracket then .ok rest
      else .error ⟨.point d.position, .mismatch o.bracket d.bracket o.position.line⟩

/-- What is left open, or the diagnosis of the first delimiter that does not match. -/
def takeAll : (opened ds : List Delimiter) → Except Diagnosis (List Delimiter)
  | opened, [] => .ok opened
  | opened, d :: ds =>
    match take opened d with
    | .error e => .error e
    | .ok opened => takeAll opened ds

variable {ds u v os os' : List Delimiter} {o c d : Delimiter} {e : Diagnosis}

theorem takeAll_cons_ok (h : take os d = .ok os') (ds : List Delimiter) :
    takeAll os (d :: ds) = takeAll os' ds := by
  rw [takeAll, h]

theorem takeAll_cons_error (h : take os d = .error e) (ds : List Delimiter) :
    takeAll os (d :: ds) = .error e := by
  rw [takeAll, h]

theorem takeAll_append_ok (h : takeAll os u = .ok os') (v : List Delimiter) :
    takeAll os (u ++ v) = takeAll os' v := by
  induction u generalizing os with
  | nil =>
    cases h
    rfl
  | cons d u ih =>
    cases hd : take os d with
    | error e =>
      rw [takeAll_cons_error hd] at h
      cases h
    | ok os'' =>
      rw [takeAll_cons_ok hd] at h
      rw [List.cons_append, takeAll_cons_ok hd, ih h]

theorem exists_of_takeAll_append (h : takeAll os (u ++ v) = .ok os') :
    ∃ os'', takeAll os u = .ok os'' := by
  induction u generalizing os with
  | nil => exact ⟨os, rfl⟩
  | cons d u ih =>
    rw [List.cons_append] at h
    cases hd : take os d with
    | error e =>
      rw [takeAll_cons_error hd] at h
      cases h
    | ok os'' =>
      rw [takeAll_cons_ok hd] at h ⊢
      exact ih h

theorem take_opener (h : o.opens = true) (os : List Delimiter) : take os o = .ok (o :: os) := by
  simp [take, h]

theorem take_closer (hc : c.opens = false) (h : o.bracket = c.bracket) (os : List Delimiter) :
    take (o :: os) c = .ok os := by
  simp [take, hc, h]

theorem take_cases (os : List Delimiter) (d : Delimiter) :
    (d.opens = true ∧ take os d = .ok (d :: os)) ∨
      d.opens = false ∧
        ((∃ o rest, os = o :: rest ∧ o.bracket = d.bracket ∧ take os d = .ok rest) ∨
          (os = [] ∧ take os d = .error ⟨.point d.position, .unexpectedCloser d.bracket⟩) ∨
          ∃ o rest, os = o :: rest ∧ o.bracket ≠ d.bracket ∧
            take os d =
              .error ⟨.point d.position, .mismatch o.bracket d.bracket o.position.line⟩) := by
  cases hd : d.opens with
  | true => exact .inl ⟨rfl, take_opener hd os⟩
  | false =>
    refine .inr ⟨rfl, ?_⟩
    cases os with
    | nil => exact .inr (.inl ⟨rfl, by simp [take, hd]⟩)
    | cons o rest =>
      by_cases hb : o.bracket = d.bracket
      · exact .inl ⟨o, rest, rfl, hb, take_closer hd hb rest⟩
      · exact .inr (.inr ⟨o, rest, rfl, hb, by simp [take, hd, hb]⟩)

/-! ### Balanced words -/

theorem Balanced.append (hu : Balanced u) (hv : Balanced v) : Balanced (u ++ v) := by
  induction hu with
  | nil => exact hv
  | @pair o c u w ho hc hb hu _ _ ih =>
    rw [List.append_assoc, List.cons_append]
    exact .pair ho hc hb hu ih

theorem Balanced.takeAll_eq (h : Balanced ds) (os : List Delimiter) : takeAll os ds = .ok os := by
  induction h generalizing os with
  | nil => rfl
  | @pair o c u v ho hc hb _ _ ihu ihv =>
    rw [List.cons_append, takeAll_cons_ok (take_opener ho os), takeAll_append_ok (ihu (o :: os)),
      takeAll_cons_ok (take_closer hc hb os), ihv os]

/-- What is open in a word: balanced words with the opening delimiters between them. -/
inductive Pending : List Delimiter → List Delimiter → Prop
  | none {u : List Delimiter} : Balanced u → Pending u []
  | opened {ds os u : List Delimiter} {o : Delimiter} :
    Pending ds os → o.opens = true → Balanced u → Pending (ds ++ o :: u) (o :: os)

theorem Pending.append (h : Pending ds os) (hu : Balanced u) : Pending (ds ++ u) os := by
  cases h with
  | none hv => exact .none (hv.append hu)
  | @opened ds os v o h ho hv =>
    rw [List.append_assoc, List.cons_append]
    exact .opened h ho (hv.append hu)

theorem Pending.take (h : Pending ds os) {os' : List Delimiter} (hd : take os d = .ok os') :
    Pending (ds ++ [d]) os' := by
  rcases take_cases os d with ⟨ho, hok⟩ | ⟨hc, ⟨o, rest, rfl, hb, hok⟩ | ⟨-, herr⟩ |
    ⟨o, rest, -, -, herr⟩⟩
  · obtain rfl : d :: os = os' := Except.ok.inj (hok.symm.trans hd)
    exact .opened h ho .nil
  · obtain rfl : rest = os' := Except.ok.inj (hok.symm.trans hd)
    cases h with
    | @opened ds _ u _ h ho hu =>
      -- the opening delimiter and the closing one make a balanced word of what is between them
      have hpair : Balanced (o :: u ++ d :: []) := .pair ho hc hb hu .nil
      simpa using h.append hpair
  · rw [herr] at hd
    cases hd
  · rw [herr] at hd
    cases hd

theorem pending_of_takeAll (h : takeAll [] ds = .ok os) : Pending ds os := by
  induction ds using List.reverseRecOn generalizing os with
  | nil =>
    cases h
    exact .none .nil
  | append_singleton ds d ih =>
    obtain ⟨os', hds⟩ := exists_of_takeAll_append h
    rw [takeAll_append_ok hds] at h
    cases hd : take os' d with
    | error e =>
      rw [takeAll_cons_error hd] at h
      cases h
    | ok os'' =>
      rw [takeAll_cons_ok hd] at h
      cases h
      exact (ih hds).take hd

theorem balanced_iff : Balanced ds ↔ takeAll [] ds = .ok [] := by
  refine ⟨fun h => h.takeAll_eq [], fun h => ?_⟩
  cases pending_of_takeAll h with
  | none hu => exact hu

theorem innermost_of_takeAll (h : takeAll [] ds = .ok (o :: os)) : Innermost ds o := by
  cases pending_of_takeAll h with
  | @opened ds _ u _ _ ho hu => exact ⟨ho, ds, u, rfl, hu⟩

def closers (os : List Delimiter) : List Delimiter := os.map fun o => { o with opens := false }

theorem takeAll_closers (os : List Delimiter) : takeAll os (closers os) = .ok [] := by
  induction os with
  | nil => rfl
  | cons o os ih =>
    have hclose : take (o :: os) { o with opens := false } = .ok os :=
      take_closer (o := o) (c := { o with opens := false }) rfl rfl os
    rw [closers, List.map_cons, takeAll_cons_ok hclose]
    exact ih

/-- A word can be completed just as long as every delimiter of it finds its partner. -/
theorem extendable_iff : Extendable ds ↔ ∃ os, takeAll [] ds = .ok os := by
  constructor
  · rintro ⟨rest, h⟩
    exact exists_of_takeAll_append (balanced_iff.mp h)
  · rintro ⟨os, h⟩
    refine ⟨closers os, balanced_iff.mpr ?_⟩
    rw [takeAll_append_ok h, takeAll_closers]

theorem Extendable.of_prefix (h : Extendable v) (hu : u <+: v) : Extendable u := by
  obtain ⟨w, rfl⟩ := hu
  obtain ⟨rest, h⟩ := h
  exact ⟨w ++ rest, by rwa [← List.append_assoc]⟩

theorem exists_of_takeAll_error (h : takeAll os ds = .error e) :
    ∃ front d back os', ds = front ++ d :: back ∧ takeAll os front = .ok os' ∧
      take os' d = .error e := by
  induction ds generalizing os with
  | nil => cases h
  | cons d ds ih =>
    cases hd : take os d with
    | error e' =>
      rw [takeAll_cons_error hd] at h
      cases h
      exact ⟨[], d, ds, os, rfl, rfl, hd⟩
    | ok os' =>
      rw [takeAll_cons_ok hd] at h
      obtain ⟨front, d', back, os'', rfl, hfront, he⟩ := ih h
      exact ⟨d :: front, d', back, os'', rfl, by rw [takeAll_cons_ok hd, hfront], he⟩

theorem take_error_cases (h : take os d = .error e) :
    d.opens = false ∧
      ((os = [] ∧ e = ⟨.point d.position, .unexpectedCloser d.bracket⟩) ∨
        ∃ o rest, os = o :: rest ∧ o.bracket ≠ d.bracket ∧
          e = ⟨.point d.position, .mismatch o.bracket d.bracket o.position.line⟩) := by
  rcases take_cases os d with ⟨-, hok⟩ | ⟨hc, ⟨o, rest, -, -, hok⟩ | ⟨hnil, herr⟩ |
    ⟨o, rest, hcons, hb, herr⟩⟩
  · rw [hok] at h
    cases h
  · rw [hok] at h
    cases h
  · rw [herr] at h
    cases h
    exact ⟨hc, .inl ⟨hnil, rfl⟩⟩
  · rw [herr] at h
    cases h
    exact ⟨hc, .inr ⟨o, rest, hcons, hb, rfl⟩⟩

theorem not_extendable_of_take_error (hu : takeAll [] u = .ok os) (he : take os d = .error e) :
    ¬ Extendable (u ++ [d]) := by
  rw [extendable_iff, takeAll_append_ok hu, takeAll_cons_error he]
  rintro ⟨os', h⟩
  cases h

theorem length_lt_of_not_extendable (hu : u <+: ds) (hok : takeAll [] u = .ok os)
    (hv : v <+: ds) (hbroken : ¬ Extendable v) : u.length < v.length := by
  by_contra hlength
  have hvu : v <+: u := List.prefix_of_prefix_length_le hv hu (Nat.not_lt.mp hlength)
  exact hbroken (Extendable.of_prefix (extendable_iff.mpr ⟨os, hok⟩) hvu)

end Delimiter

/-! ### The scan matches the delimiters -/

namespace Balance
open Delimiter

def scan : Balance → List (Position × CodePoint) → Except Diagnosis Balance
  | s, [] => .ok s
  | s, a :: cs =>
    match s.step a.1 a.2 with
    | .error d => .error d
    | .ok s => scan s cs

theorem scan_append (s : Balance) (cs cs' : List (Position × CodePoint)) :
    scan s (cs ++ cs') =
      match scan s cs with
      | .error d => .error d
      | .ok s => scan s cs' := by
  induction cs generalizing s with
  | nil => rfl
  | cons a cs ih =>
    rw [List.cons_append, scan, scan]
    cases s.step a.1 a.2 with
    | error d => rfl
    | ok s' => exact ih s'

theorem line_eq (n column : Nat) (s : Balance) (l : Text) :
    line n column s l = scan s (l.mapIdx fun j c => (⟨n, column + j⟩, c)) := by
  induction l generalizing column s with
  | nil => rfl
  | cons c l ih =>
    rw [line, List.mapIdx_cons, scan, Nat.add_zero]
    cases s.step ⟨n, column⟩ c with
    | error d => rfl
    | ok s' => simp only [ih, Nat.add_assoc, Nat.add_comm 1]

theorem lines_eq (n : Nat) (s : Balance) (ls : List Text) :
    lines n s ls =
      scan s (ls.mapIdx fun i l => l.mapIdx fun j c => (⟨n + i, 1 + j⟩, c)).flatten := by
  induction ls generalizing n s with
  | nil => rfl
  | cons l ls ih =>
    rw [lines, line_eq, List.mapIdx_cons, List.flatten_cons, scan_append, Nat.add_zero]
    cases scan s (l.mapIdx fun j c => (⟨n, 1 + j⟩, c)) with
    | error d => rfl
    | ok s' => simp only [ih, Nat.add_assoc, Nat.add_comm 1]

theorem lines_placed (t : Text) : lines 1 start t.lines = scan start t.placed := by
  rw [lines_eq, Text.placed]
  simp only [Nat.add_comm 1]

def entries (os : List Delimiter) : List (Bracket × Position) :=
  os.map fun o => (o.bracket, o.position)

theorem step_outside {a : Position × CodePoint} (hb : a.2 ≠ CodePoint.ofChar '\\')
    (hq : a.2 ≠ CodePoint.ofChar '"') (os : List Delimiter) :
    step ⟨entries os, false, false⟩ a.1 a.2 =
      match of? a with
      | none => .ok ⟨entries os, false, false⟩
      | some d =>
        match take os d with
        | .error e => .error e
        | .ok os => .ok ⟨entries os, false, false⟩ := by
  obtain ⟨p, c⟩ := a
  simp only at hb hq
  simp only [step, hb, hq, if_false, Bool.false_eq_true, of?]
  cases hopen : Bracket.ofOpener? c with
  | some b => simp [take, entries]
  | none =>
    cases hclose : Bracket.ofCloser? c with
    | none => simp
    | some b =>
      cases os with
      | nil => simp [take, entries]
      | cons o os =>
        by_cases h : o.bracket = b <;> simp [take, entries, h]

/-- The scan has found the same fault as the stack, or it has left open what the stack has. -/
def Agrees : Except Diagnosis Balance → Except Diagnosis (List Delimiter) → Prop
  | .error d, .error e => d = e
  | .ok s, .ok os => s.opened = entries os
  | _, _ => False

theorem agrees_unquoted (quoted : Bool) (os : List Delimiter) (cs : List (Position × CodePoint)) :
    Agrees (scan ⟨entries os, quoted, false⟩ cs)
      (takeAll os ((Text.unquoted quoted cs).filterMap of?)) := by
  fun_induction Text.unquoted quoted cs generalizing os with
  | case1 quoted => rfl
  | case2 quoted a hb => simp [scan, step, hb, Agrees, takeAll]
  | case3 quoted a hb b rest ih => simpa [scan, step, hb] using ih os
  | case4 quoted a rest _ hq ih =>
    have hb : CodePoint.ofChar '"' ≠ CodePoint.ofChar '\\' := by decide
    simpa [scan, step, hb, hq] using ih os
  | case5 a rest hb hq ih => simpa [scan, step, hb, hq] using ih os
  | case6 quoted a rest hb hq hquoted ih =>
    rw [Bool.not_eq_true] at hquoted
    subst hquoted
    rw [scan, step_outside hb hq]
    cases hof : of? a with
    | none => simpa [hof] using ih os
    | some d =>
      simp only [List.filterMap_cons, hof]
      cases hd : take os d with
      | error e =>
        rw [takeAll_cons_error hd]
        rfl
      | ok os' =>
        rw [takeAll_cons_ok hd]
        exact ih os'

end Balance

namespace Diagnosis
open Delimiter

theorem brackets_eq (t : Text) : brackets t =
    match takeAll [] t.delimiters with
    | .error e => some e
    | .ok os => os.head?.map fun o => ⟨.point o.position, .unclosed o.bracket⟩ := by
  have hagrees := Balance.agrees_unquoted false [] t.placed
  have hstart : Balance.start = ⟨Balance.entries [], false, false⟩ := rfl
  rw [brackets, Balance.lines_placed, hstart, Text.delimiters]
  cases hscan : Balance.scan ⟨Balance.entries [], false, false⟩ t.placed with
  | error d =>
    cases hstack : takeAll [] ((Text.unquoted false t.placed).filterMap of?) with
    | error e => simpa [hscan, hstack, Balance.Agrees] using hagrees
    | ok os => simp [hscan, hstack, Balance.Agrees] at hagrees
  | ok s =>
    cases hstack : takeAll [] ((Text.unquoted false t.placed).filterMap of?) with
    | error e => simp [hscan, hstack, Balance.Agrees] at hagrees
    | ok os =>
      have hopened : s.opened = Balance.entries os := by
        simpa [hscan, hstack, Balance.Agrees] using hagrees
      simp [Balance.verdict, hopened, Balance.entries, Function.comp_def]

/-- No bracket is reported just if the delimiters outside strings are balanced.  Otherwise, if they
have a beginning that nothing can complete, the shortest one ends with a closing delimiter, which is
reported: as unexpected if all before it is matched, and as a mismatch with the innermost opening
delimiter that is not matched there.  If there is no such beginning, the innermost delimiter that is
not matched is reported as unclosed. -/
theorem brackets_decides_balance (t : Text) :
    (brackets t = none ↔ Balanced t.delimiters) ∧
      ((∃ p, p <+: t.delimiters ∧ ¬ Extendable p) →
        ∃ front c back, t.delimiters = front ++ c :: back ∧ c.opens = false ∧
          ¬ Extendable (front ++ [c]) ∧
          (∀ p, p <+: t.delimiters → ¬ Extendable p → front.length < p.length) ∧
          (Balanced front →
            brackets t = some ⟨.point c.position, .unexpectedCloser c.bracket⟩) ∧
          (¬ Balanced front → ∃ o, Innermost front o ∧ o.bracket ≠ c.bracket ∧
            brackets t =
              some ⟨.point c.position, .mismatch o.bracket c.bracket o.position.line⟩)) ∧
      ((∀ p, p <+: t.delimiters → Extendable p) → ¬ Balanced t.delimiters →
        ∃ o, Innermost t.delimiters o ∧
          brackets t = some ⟨.point o.position, .unclosed o.bracket⟩) := by
  rw [brackets_eq]
  refine ⟨?_, ?_, ?_⟩
  · rw [balanced_iff]
    cases takeAll [] t.delimiters with
    | error e => simp
    | ok os => simp
  · rintro ⟨p, hp, hbroken⟩
    cases h : takeAll [] t.delimiters with
    | ok os => exact absurd (Extendable.of_prefix (extendable_iff.mpr ⟨os, h⟩) hp) hbroken
    | error e =>
      obtain ⟨front, c, back, os, ht, hfront, he⟩ := exists_of_takeAll_error h
      have hprefix : front <+: t.delimiters := ht ▸ List.prefix_append _ _
      obtain ⟨hc, hfault⟩ := take_error_cases he
      refine ⟨front, c, back, ht, hc, not_extendable_of_take_error hfront he,
        fun p => length_lt_of_not_extendable hprefix hfront, ?_⟩
      rw [balanced_iff, hfront]
      rcases hfault with ⟨rfl, rfl⟩ | ⟨o, rest, rfl, hb, rfl⟩
      · exact ⟨fun _ => rfl, fun hne => absurd rfl hne⟩
      · refine ⟨fun heq => ?_, fun _ => ⟨o, innermost_of_takeAll hfront, hb, rfl⟩⟩
        cases heq
  · intro hall hunbalanced
    obtain ⟨os, hos⟩ := extendable_iff.mp (hall _ (List.prefix_refl _))
    rw [balanced_iff, hos] at hunbalanced
    cases os with
    | nil => exact absurd rfl hunbalanced
    | cons o os =>
      refine ⟨o, innermost_of_takeAll hos, ?_⟩
      simp [hos]

end Diagnosis

end JsonDesk
