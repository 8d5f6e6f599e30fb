import JsonDesk.Proofs.Places
import JsonDesk.Proofs.Digits

/-!
The message of a refusal.  It names its place by a line and a column, which are found again at the
only place where the word in front of them stands, or it names none.  Both numbers are read as they
were written, unless one has more digits than an integer is converted from.
-/

set_option autoImplicit false

namespace JsonDesk

namespace CodePoint

theorem decimal?_of_isDigit {c : CodePoint} (h : c.isDigit) :
    c.decimal? = some (c.digit?.getD 0) := by
  obtain ⟨d, hd⟩ := Option.isSome_iff_exists.mp h
  have hascii := (isDigit_iff.mp h).2
  rw [decimal?_of_ascii (by omega), hd, Option.getD_some]

theorem isDecimal_of_isDigit {c : CodePoint} (h : c.isDigit) : c.isDecimal := by
  rw [isDecimal, decimal?_of_isDigit h]
  rfl

theorem ne_of_isDecimal {c : CodePoint} {a : Char} (h : c.isDecimal)
    (ha : (ofChar a).isDecimal = false) : c ≠ ofChar a := by
  rintro rfl
  rw [ha] at h
  cases h

theorem not_isNumberBlank_of_isDecimal {c : CodePoint} (h : c.isDecimal) :
    c.isNumberBlank = false := by
  have hclear : ∀ z ∈ decimalZeros, (z + 9 < 0x85 ∨ 0xA0 < z) ∧ (z + 9 < 0x1680 ∨ 0x1680 < z) ∧
      (z + 9 < 0x2000 ∨ 0x205F < z) ∧ (z + 9 < 0x3000 ∨ 0x3000 < z) := by decide
  obtain ⟨d, hd⟩ := Option.isSome_iff_exists.mp h
  simp only [isNumberBlank, isBlank, Bool.and_eq_false_iff, Bool.or_eq_false_iff,
    decide_eq_false_iff_not, beq_eq_false_iff_ne]
  unfold decimal? at hd
  split at hd
  · have hbounds := isDigit_iff.mp (Option.isSome_iff_exists.mpr ⟨d, hd⟩)
    omega
  · obtain ⟨z, hz, -⟩ := Option.map_eq_some_iff.mp hd
    have hbounds := List.find?_some hz
    have hzero := hclear z (List.mem_of_find?_eq_some hz)
    simp only [Bool.and_eq_true, decide_eq_true_eq] at hbounds
    omega

end CodePoint

namespace Text

/-! ### Numbers in a message -/

theorem trim_of_all_not {p : CodePoint → Bool} {t : Text} (h : ∀ c ∈ t, p c = false) :
    t.trim p = t := by
  have hfront : ∀ u : Text, (∀ c ∈ u, p c = false) → u.dropWhile p = u := by
    intro u hu
    cases u with
    | nil => rfl
    | cons c u =>
      rw [List.dropWhile_cons, hu c List.mem_cons_self]
      rfl
  rw [trim, hfront t h, dropRightWhile, hfront t.reverse fun c hc => h c (List.mem_reverse.mp hc),
    List.reverse_reverse]

theorem signed_of_decimals {t : Text} (h : ∀ c ∈ t, c.isDecimal) : signed t = (false, t) := by
  cases t with
  | nil => rfl
  | cons c t =>
    have hc := h c List.mem_cons_self
    rw [signed, if_neg (CodePoint.ne_of_isDecimal hc (by decide)),
      if_neg (CodePoint.ne_of_isDecimal hc (by decide))]

theorem digitRun?_go {t : Text} (h : ∀ c ∈ t, c.isDecimal) {done : List Nat}
    (hne : done ≠ [] ∨ t ≠ []) :
    digitRun?.go t done false = some (done.reverse ++ t.map fun c => c.decimal?.getD 0, []) := by
  induction t generalizing done with
  | nil =>
    have hdone : done ≠ [] := hne.resolve_right (not_not.mpr rfl)
    simp [digitRun?.go, hdone]
  | cons c t ih =>
    obtain ⟨d, hd⟩ := Option.isSome_iff_exists.mp (h c List.mem_cons_self)
    rw [digitRun?.go, hd]
    simp only
    rw [ih (fun d hd => h d (List.mem_cons_of_mem _ hd)) (.inl (List.cons_ne_nil _ _))]
    simp [hd]

theorem toInt_of_decimals {t : Text} (h : ∀ c ∈ t, c.isDecimal) (hne : t ≠ []) : toInt t =
    if maxDigits < t.length then .error (.tooManyDigits t.length)
    else .ok (ofDigits (t.map fun c => c.decimal?.getD 0)) := by
  have htrim : t.trim CodePoint.isNumberBlank = t :=
    trim_of_all_not fun c hc => CodePoint.not_isNumberBlank_of_isDecimal (h c hc)
  have hrun : digitRun? t = some (t.map fun c => c.decimal?.getD 0, []) :=
    digitRun?_go h (.inr hne)
  rw [toInt, htrim, signed_of_decimals h]
  simp only
  rw [hrun]
  simp

theorem ofDigits_digits {t : Text} (h : ∀ c ∈ t, c.isDigit) :
    ofDigits (t.map fun c => c.decimal?.getD 0) = Numeral.magnitude t := by
  have hmap : (t.map fun c => c.decimal?.getD 0) = t.map fun c => c.digit?.getD 0 :=
    List.map_congr_left fun c hc => by rw [CodePoint.decimal?_of_isDigit (h c hc)]; rfl
  rw [hmap, ofDigits, List.foldl_map]
  rfl

theorem isDecimal_of_mem_ofNat (n : Nat) : ∀ c ∈ ofNat n, c.isDecimal := fun c hc =>
  CodePoint.isDecimal_of_isDigit (isDigit_of_mem_ofNat n c hc)

theorem toInt_ofNat (n : Nat) : toInt (ofNat n) =
    if maxDigits < (ofNat n).length then .error (.tooManyDigits (ofNat n).length) else .ok n := by
  rw [toInt_of_decimals (isDecimal_of_mem_ofNat n) (ofNat_ne_nil n),
    ofDigits_digits (isDigit_of_mem_ofNat n), Numeral.magnitude_ofNat]

/-- Decimal digits of any script, at least one, and nothing else. -/
def Decimals (t : Text) : Prop := t ≠ [] ∧ ∀ c ∈ t, c.isDecimal

theorem decimals?_eq_some_iff {t ds r : Text} : decimals? t = some (ds, r) ↔
    t = ds ++ r ∧ Decimals ds ∧ ∀ c ∈ r.head?, c.isDecimal = false := by
  have hsplit := List.takeWhile_append_dropWhile (p := CodePoint.isDecimal) (l := t)
  have hall : ∀ c ∈ t.takeWhile CodePoint.isDecimal, c.isDecimal := fun c hc =>
    List.all_eq_true.mp List.all_takeWhile c hc
  constructor
  · intro h
    unfold decimals? at h
    split at h
    · cases h
    · next hne =>
      obtain ⟨rfl, rfl⟩ := Prod.mk.inj (Option.some.inj h)
      exact ⟨hsplit.symm, ⟨fun hnil => hne hnil, hall⟩, head_dropWhile _ t⟩
  · intro h
    obtain ⟨rfl, ⟨hne, hds⟩, hr⟩ := h
    have hdrop : (ds ++ r).dropWhile CodePoint.isDecimal = r := by
      rw [List.dropWhile_append_of_pos hds, dropWhile_eq_self hr]
    have htake : (ds ++ r).takeWhile CodePoint.isDecimal = ds := by
      rw [hdrop] at hsplit
      exact List.append_cancel_right hsplit
    rw [decimals?, htake, hdrop]
    cases ds with
    | nil => exact absurd rfl hne
    | cons d ds => rfl

theorem decimals?_ofNat (n : Nat) {c : CodePoint} (hc : c.isDecimal = false) (r : Text) :
    decimals? (ofNat n ++ c :: r) = some (ofNat n, c :: r) :=
  decimals?_eq_some_iff.mpr
    ⟨rfl, ⟨ofNat_ne_nil n, isDecimal_of_mem_ofNat n⟩, by simpa using hc⟩

/-! ### Words in a message -/

/-- A word starts nowhere in this stretch of text, not even to end behind it. -/
def Silent (w : Text) : Text → Prop
  | [] => True
  | c :: p => (¬ w <+: c :: p ∧ ¬ c :: p <+: w) ∧ Silent w p

instance Silent.decidable (w : Text) : (p : Text) → Decidable (Silent w p)
  | [] => .isTrue trivial
  | c :: p =>
    have := decidable w p
    inferInstanceAs (Decidable ((¬ w <+: c :: p ∧ ¬ c :: p <+: w) ∧ Silent w p))

variable {α : Type} {find? : Text → Option α} {w p q : Text}

theorem not_prefix_append (hp : ¬ w <+: p ∧ ¬ p <+: w) (r : Text) : ¬ w <+: p ++ r := by
  intro h
  rcases List.prefix_or_prefix_of_prefix h (List.prefix_append p r) with h | h
  · exact hp.1 h
  · exact hp.2 h

theorem Silent.append (hp : Silent w p) (hq : Silent w q) : Silent w (p ++ q) := by
  induction p with
  | nil => exact hq
  | cons c p ih =>
    refine ⟨⟨not_prefix_append hp.1 q, fun h => ?_⟩, ih hp.2⟩
    exact hp.1.2 ((List.prefix_append (c :: p) q).trans h)

theorem silent_of_not_mem {c : CodePoint} (w : Text) (h : c ∉ p) : Silent (c :: w) p := by
  induction p with
  | nil => trivial
  | cons d p ih =>
    obtain ⟨hd, hp⟩ := not_or.mp (List.mem_cons.not.mp h)
    exact ⟨by simp [List.cons_prefix_cons, hd, Ne.symm hd], ih hp⟩

theorem search_silent (hf : ∀ t, find? t ≠ none → w <+: t) (hp : Silent w p) (r : Text) :
    search find? (p ++ r) = search find? r := by
  induction p with
  | nil => rfl
  | cons c p ih =>
    have hnone : find? (c :: (p ++ r)) = none :=
      not_not.mp fun hne => not_prefix_append hp.1 r (hf _ hne)
    rw [List.cons_append, search, hnone]
    exact ih hp.2

theorem search_eq_none (hf : ∀ t, find? t ≠ none → w <+: t) (hw : w ≠ []) (hp : Silent w p) :
    search find? p = none := by
  have hrest := search_silent hf hp []
  rw [List.append_nil] at hrest
  rw [hrest]
  exact not_not.mp fun hne => hw (List.prefix_nil.mp (hf [] hne))

theorem search_eq_some {t : Text} {a : α} (h : find? t = some a) : search find? t = some a := by
  cases t with
  | nil => exact h
  | cons c t =>
    rw [search, h]
    rfl

theorem lineColumn?_word (t : Text) (h : lineColumn? t ≠ none) : ofString "line " <+: t := by
  cases hafter : after? "line " t with
  | none => exact absurd (by simp [lineColumn?, hafter]) h
  | some r => exact ⟨r, (after?_eq_some_iff.mp hafter).symm⟩

theorem lineColumn?_ofNat (n m : Nat) {c : CodePoint} (hc : c.isDecimal = false) (r : Text) :
    lineColumn? (ofString "line " ++ (ofNat n ++ (ofString " column " ++ (ofNat m ++ c :: r)))) =
      some (ofNat n, ofNat m) := by
  have hspace : ofString " column " = CodePoint.ofChar ' ' :: ofString "column " := rfl
  rw [lineColumn?, after?_eq_some_iff.mpr rfl]
  simp only [Option.bind_eq_bind, Option.bind_some]
  rw [hspace, List.cons_append, decimals?_ofNat n (by decide)]
  simp only [Option.bind_some]
  rw [← List.cons_append, ← hspace, after?_eq_some_iff.mpr rfl]
  simp only [Option.bind_some]
  rw [decimals?_ofNat m hc]
  rfl

end Text

namespace Fault
open Text

variable {t : Text}

/-- The line and the column stand in the message behind the only "line ". -/
theorem search_misread (what : Misreading) (left : Nat) :
    search lineColumn? ((misread what left).message t) =
      some (ofNat (t.positionAt ((t.length - left : Nat) : Int)).line,
        ofNat (t.positionAt ((t.length - left : Nat) : Int)).column) := by
  have hphrase : Silent "line " (what.phrase ++ ofString ": ") := by
    cases what <;> decide
  -- the phrase and its colon are skipped, and the word stands at the front of what is left
  have hline : ofString ": line " = ofString ": " ++ ofString "line " := rfl
  have hspace : ofString " (char " = CodePoint.ofChar ' ' :: ofString "(char " := rfl
  rw [message, hline, hspace]
  simp only [List.append_assoc, List.cons_append]
  rw [← List.append_assoc what.phrase, search_silent lineColumn?_word hphrase]
  exact search_eq_some (lineColumn?_ofNat _ _ (by decide) _)

theorem silent_message {f : Fault} (hf : ∀ what left, f ≠ misread what left) :
    Silent "line " (f.message t) := by
  have hnumber : ∀ n, Silent "line " (ofNat n) := fun n =>
    silent_of_not_mem _ fun h => absurd (isDigit_of_mem_ofNat n _ h) (by decide)
  cases f with
  | misread what left => exact absurd rfl (hf what left)
  | constant which => exact Silent.append (by decide) (by cases which <;> decide)
  | tooDeep container =>
    exact ((Silent.append (by decide) (by cases container <;> decide)).append (by decide))
  | tooLong n =>
    have hfront : Silent "line " (ofString "Exceeds the limit (") := by decide
    exact (((hfront.append (hnumber maxDigits)).append (by decide)).append (hnumber n)).append
      (by decide +kernel)

end Fault

namespace Diagnosis
open Text

variable {t message : Text} {d : Diagnosis}

theorem on_ofMessage_offset (hnone : search lineColumn? message = none)
    (h : ofMessage t message = .ok d) : d.place.On 1 t.lines := by
  rw [ofMessage, hnone] at h
  simp only at h
  split at h
  · next p _ =>
    cases hp : p.toInt with
    | error e => rw [hp] at h; cases h
    | ok offset =>
      rw [hp] at h
      cases h
      exact on_positionAt t offset
  · cases h
    trivial

theorem on_ofMessage {f : Fault} (h : ofMessage t (f.message t) = .ok d) :
    d.place.On 1 t.lines := by
  cases f with
  | misread what left =>
    -- the numbers in the message are those of the position, if they can be read at all
    rw [ofMessage, Fault.search_misread] at h
    simp only [toInt_ofNat] at h
    split at h
    · cases h
    split at h
    · cases h
    cases h
    exact on_positionAt t _
  | _ =>
    refine on_ofMessage_offset (search_eq_none lineColumn?_word (by decide) ?_) h
    exact Fault.silent_message (by simp)

theorem kind_of_toInt {u : Text} {e : Failure} (h : u.toInt = .error e) : e.kind = .value := by
  rw [toInt] at h
  simp only at h
  split at h
  · cases h
    rfl
  · split at h
    · cases h
      rfl
    · split at h <;> cases h
      rfl

theorem kind_of_ofMessage {e : Failure} (h : ofMessage t message = .error e) : e.kind = .value := by
  rw [ofMessage] at h
  split at h
  · next l c _ =>
    cases hl : l.toInt with
    | error e' =>
      rw [hl] at h
      cases h
      exact kind_of_toInt hl
    | ok line =>
      cases hc : c.toInt with
      | error e' =>
        rw [hl, hc] at h
        cases h
        exact kind_of_toInt hc
      | ok column =>
        rw [hl, hc] at h
        cases h
  · split at h
    · next p _ =>
      cases hp : p.toInt with
      | error e' =>
        rw [hp] at h
        cases h
        exact kind_of_toInt hp
      | ok offset =>
        rw [hp] at h
        cases h
    · cases h

end Diagnosis

theorem diagnose_on {t : Text} {f : Fault} {d : Diagnosis}
    (h : diagnose t (f.message t) = .ok d) : d.place.On 1 t.lines := by
  rw [diagnose] at h
  split at h
  · next found hfound =>
    cases h
    obtain ⟨check, -, hrun⟩ := List.exists_of_findSome?_eq_some hfound
    exact Check.on_run hrun
  · exact Diagnosis.on_ofMessage h

theorem kind_of_diagnose {t message : Text} {e : Failure} (h : diagnose t message = .error e) :
    e.kind = .value := by
  rw [diagnose] at h
  split at h
  · cases h
  · exact Diagnosis.kind_of_ofMessage h

/-! ### The message itself -/

namespace Text

theorem cut?_go {p t seen front back : Text} (h : cut?.go p t seen = some (front, back)) :
    seen.reverse ++ t = front ++ p ++ back := by
  induction t generalizing seen with
  | nil =>
    obtain ⟨r, hr, he⟩ := Option.map_eq_some_iff.mp h
    cases he
    rw [after?_eq_some_iff.mp hr, List.append_assoc]
  | cons c t ih =>
    rw [cut?.go] at h
    split at h
    · next r hr =>
      cases h
      rw [after?_eq_some_iff.mp hr, List.append_assoc]
    · rw [← ih h]
      simp

theorem head?_replaceFirst {t p : Text} (h : t.head? ≠ p.head?) :
    (t.replaceFirst p []).head? = t.head? := by
  rw [replaceFirst]
  split
  · next front back hcut =>
    have ht : t = front ++ p ++ back := cut?_go hcut
    subst ht
    cases front with
    | cons c front => rfl
    | nil =>
      cases p with
      | nil => rfl
      | cons c p => exact absurd rfl h
  · rfl

theorem head?_withoutOpenings {t : Text} (h : t.head? ≠ some (CodePoint.ofChar 'J')) :
    t.withoutOpenings.head? = t.head? := by
  have hstart : ∀ p ∈ messageOpenings, p.head? = some (CodePoint.ofChar 'J') := by decide
  rw [withoutOpenings]
  generalize messageOpenings = ps at hstart
  induction ps generalizing t with
  | nil => rfl
  | cons p ps ih =>
    have hhead : (t.replaceFirst p []).head? = t.head? :=
      head?_replaceFirst (hstart p List.mem_cons_self ▸ h)
    rw [List.foldl_cons, ih (hhead ▸ h) fun q hq => hstart q (List.mem_cons_of_mem p hq), hhead]

end Text

theorem Fault.message_ne_nil (t : Text) (f : Fault) : (f.message t).withoutOpenings ≠ [] := by
  have hhead : ∃ c r, f.message t = c :: r ∧ c ≠ CodePoint.ofChar 'J' := by
    cases f with
    | misread what left => cases what <;> exact ⟨_, _, rfl, by decide⟩
    | constant which => exact ⟨_, _, rfl, by decide⟩
    | tooDeep container => exact ⟨_, _, rfl, by decide⟩
    | tooLong digits => exact ⟨_, _, rfl, by decide⟩
  obtain ⟨c, r, hc, hne⟩ := hhead
  intro hnil
  have hkept := Text.head?_withoutOpenings (t := f.message t) (by simpa [hc] using hne)
  rw [hnil, hc] at hkept
  cases hkept

/-- Every text gets a verdict.  A refusal has a message and a hint, its line is one of the text's,
and a column comes with its line and is in it or right behind it. -/
theorem Verdict.refusal_located [StackRoom] (t : Text) :
    (∀ message e, diagnose t message = .error e → e.kind.tolerable = true) ∧
      ((∃ v, validate t = .valid v) ∨
        ∃ message d, validate t = .invalid message d ∧ message ≠ [] ∧ d.hint.text ≠ [] ∧
          (∀ n, d.place.line? = some n → 1 ≤ n ∧ n ≤ t.lines.length) ∧
          ∀ c, d.place.column? = some c → ∃ n l,
            d.place.line? = some n ∧ t.lines[n - 1]? = some l ∧ 1 ≤ c ∧ c ≤ l.length + 1) := by
  refine ⟨fun message e he => by rw [kind_of_diagnose he]; rfl, ?_⟩
  rw [validate]
  split
  · exact .inl ⟨_, rfl⟩
  split
  · exact .inl ⟨_, rfl⟩
  · next f _ =>
    simp only
    cases hd : diagnose t (f.message t) with
    | ok d =>
      have hplace := diagnose_on hd
      exact .inr ⟨_, d, rfl, f.message_ne_nil t, d.hint.text_ne_nil, fun _ => hplace.line_bounds,
        fun _ => hplace.column_bounds⟩
    | error e =>
      have hplace : Place.unknown.On 1 t.lines := trivial
      exact .inr ⟨_, _, rfl, f.message_ne_nil t, Hint.text_ne_nil _, fun _ => hplace.line_bounds,
        fun _ => hplace.column_bounds⟩

end JsonDesk
