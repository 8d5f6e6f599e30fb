import JsonDesk.Log
import JsonDesk.Proofs.Lines
import JsonDesk.Proofs.Messages
import JsonDesk.Proofs.UnpairedTexts

/-!
Entries of the diagnostics log.  An entry is printed in ASCII, except for the lines of the document
that it shows and a name that its hint may quote from one of them.  So there are no surrogates in
the entry for a document without any.
-/

set_option autoImplicit false

namespace JsonDesk

open Json (Clean clean_nil clean_ofString)

variable {t u : Text}

/-! ### Pieces of texts -/

theorem clean_of_subset (h : t ⊆ u) (hu : Clean u) : Clean t := fun c hc => hu c (h hc)

namespace Text

theorem infix_of_keyBeforeColon {key : Text} (h : t.keyBeforeColon? = some key) : key <:+: t := by
  induction t with
  | nil => cases h
  | cons c t ih =>
    rw [keyBeforeColon?] at h
    split at h
    · dsimp only at h
      split at h
      · cases h
        exact (List.takeWhile_prefix _).isInfix.trans (List.suffix_cons c t).isInfix
      · exact (ih h).trans (List.suffix_cons c t).isInfix
    · exact (ih h).trans (List.suffix_cons c t).isInfix

theorem replaceFirst_nil_subset (t p : Text) : t.replaceFirst p [] ⊆ t := by
  unfold replaceFirst
  split
  · next front back hcut =>
    have heq : t = front ++ p ++ back := cut?_go hcut
    subst heq
    simp
  · exact List.Subset.refl t

theorem withoutOpenings_subset (t : Text) : t.withoutOpenings ⊆ t := by
  unfold withoutOpenings
  generalize messageOpenings = openings
  induction openings generalizing t with
  | nil => exact List.Subset.refl t
  | cons opening openings ih => exact List.Subset.trans (ih _) (replaceFirst_nil_subset t opening)

def OnLine (t u : Text) : Prop := ∃ l ∈ t.lines, u <:+: l

theorem OnLine.subset (h : t.OnLine u) : u ⊆ t := by
  obtain ⟨l, hl, hu⟩ := h
  exact (hu.trans (infix_of_mem_lines hl)).subset

/-! ### Printed texts -/

def Inline (t : Text) : Prop := ∀ c ∈ t, 0x20 ≤ c.val ∧ c.val < 0x80

instance : DecidablePred Inline := fun t =>
  inferInstanceAs (Decidable (∀ c ∈ t, 0x20 ≤ c.val ∧ c.val < 0x80))

theorem Inline.append (ht : Inline t) (hu : Inline u) : Inline (t ++ u) :=
  List.forall_mem_append.mpr ⟨ht, hu⟩

theorem Inline.of_subset (hu : Inline u) (h : t ⊆ u) : Inline t := fun c hc => hu c (h hc)

theorem Inline.clean (h : Inline t) : Clean t := Json.clean_of_ascii fun c hc => (h c hc).2

theorem inline_of_digits (h : ∀ c ∈ t, c.isDigit) : Inline t := by
  intro c hc
  have := CodePoint.isDigit_iff.mp (h c hc)
  omega

theorem inline_ofNat (n : Nat) : Inline (ofNat n) := inline_of_digits (isDigit_of_mem_ofNat n)

theorem inline_ofNatPadded (width n : Nat) : Inline (ofNatPadded width n) :=
  (inline_of_digits (Numeral.isDigit_of_mem_zeros _)).append (inline_ofNat n)

/-- Printed, but for a name in quotation marks. -/
def Quoting (P : Text → Prop) (t : Text) : Prop :=
  Inline t ∨ ∃ front name back, P name ∧ t = front ++ (name ++ CodePoint.ofChar '"' :: back) ∧
    Inline front ∧ Inline back

theorem Quoting.clean {P : Text → Prop} (h : Quoting P t) (hP : ∀ name, P name → Clean name) :
    Clean t := by
  obtain hinline | ⟨front, name, back, hname, rfl, hfront, hback⟩ := h
  · exact hinline.clean
  · exact hfront.clean.append ((hP name hname).append
      (Inline.clean (List.forall_mem_cons.mpr ⟨by decide, hback⟩)))

end Text

theorem clean_join {sep : Text} {ts : List Text} (hsep : Clean sep) (hts : ∀ t ∈ ts, Clean t) :
    Clean (Text.join sep ts) := by
  cases ts with
  | nil => exact clean_nil
  | cons t ts =>
    refine (hts t (.head _)).append fun c hc => ?_
    obtain ⟨s, hs, hc⟩ := List.mem_flatten.mp hc
    obtain ⟨u, hu, rfl⟩ := List.mem_map.mp hs
    exact (hsep.append (hts u (.tail _ hu))) c hc

/-! ### Hints -/

def Hint.Quotes (P : Text → Prop) : Hint → Prop
  | .duplicateKey key _ => P key
  | _ => True

theorem Hint.Quotes.quoting {P : Text → Prop} {hint : Hint} (h : hint.Quotes P) :
    hint.text.Quoting P := by
  have hnumber := Text.inline_ofNat
  cases hint with
  | duplicateKey key line =>
    refine .inr ⟨"Duplicate key \"", key, " - first occurrence was at line " ++ Text.ofNat line, h, ?_,
      by decide, .append (by decide) (hnumber line)⟩
    simp [text, Text.ofString]
  | closeString => exact .inl (by decide)
  | addComma line => exact .inl (.append (by decide) (hnumber line))
  | addColon => exact .inl (by decide)
  | removeComma before => exact .inl (by cases before <;> decide)
  | unexpectedCloser found => exact .inl (by cases found <;> decide)
  | mismatch opened found line =>
    exact .inl (.append (by cases opened <;> cases found <;> decide) (hnumber line))
  | unclosed opened => exact .inl (by cases opened <;> decide)
  | lookHere => exact .inl (by decide)
  | lookAround => exact .inl (by decide)

namespace Diagnosis

variable {P : Text → Prop} {d : Diagnosis} {ls : List Text}

theorem quotes_unterminatedString {n : Nat} (h : unterminatedString.go n ls = some d) :
    d.hint.Quotes P := by
  induction ls generalizing n with
  | nil => cases h
  | cons l ls ih =>
    rw [unterminatedString.go] at h
    split at h
    · cases h
      trivial
    · exact ih h

theorem quotes_duplicateKey {n : Nat} {seen : List (Text × Nat)}
    (hls : ∀ l ∈ ls, ∀ key, l.keyBeforeColon? = some key → P key)
    (h : duplicateKey.go n ls seen = some d) : d.hint.Quotes P := by
  induction ls generalizing n seen with
  | nil => cases h
  | cons l ls ih =>
    obtain ⟨hl, hls⟩ := List.forall_mem_cons.mp hls
    rw [duplicateKey.go] at h
    split at h
    · exact ih hls h
    · next key hkey =>
      split at h
      · cases h
        exact hl _ hkey
      · exact ih hls h

theorem quotes_firstPair {judge : Nat → Text → Text → Option Diagnosis}
    (hj : ∀ n l next d, judge n l next = some d → d.hint.Quotes P) {n : Nat}
    (h : firstPair judge n ls = some d) : d.hint.Quotes P := by
  induction ls generalizing n with
  | nil => cases h
  | cons l ls ih =>
    cases ls with
    | nil => cases h
    | cons next rest =>
      rw [firstPair] at h
      cases hjudge : judge n l next with
      | some e =>
        rw [hjudge] at h
        cases h
        exact hj n l next d hjudge
      | none =>
        rw [hjudge] at h
        exact ih h

theorem quotes_step {s : Balance} {p : Position} {c : CodePoint} (h : s.step p c = .error d) :
    d.hint.Quotes P := by
  unfold Balance.step at h
  repeat' split at h
  all_goals cases h
  · trivial
  · trivial

theorem quotes_line {s : Balance} {n column : Nat} {l : Text}
    (h : Balance.line n column s l = .error d) : d.hint.Quotes P := by
  induction l generalizing column s with
  | nil => cases h
  | cons c l ih =>
    rw [Balance.line] at h
    split at h
    · next e hstep =>
      cases h
      exact quotes_step hstep
    · exact ih h

theorem quotes_lines {s : Balance} {n : Nat} (h : Balance.lines n s ls = .error d) :
    d.hint.Quotes P := by
  induction ls generalizing n s with
  | nil => cases h
  | cons l ls ih =>
    rw [Balance.lines] at h
    split at h
    · next e hline =>
      cases h
      exact quotes_line hline
    · exact ih h

theorem quotes_brackets (h : brackets u = some d) : d.hint.Quotes P := by
  rw [brackets] at h
  split at h
  · next e hlines =>
    cases h
    exact quotes_lines hlines
  · obtain ⟨o, -, rfl⟩ := Option.map_eq_some_iff.mp h
    trivial

theorem quotes_ofMessage {message : Text} (h : ofMessage u message = .ok d) : d.hint.Quotes P := by
  rw [ofMessage] at h
  split at h
  · next l c _ =>
    cases hl : l.toInt with
    | error e =>
      rw [hl] at h
      cases h
    | ok line =>
      cases hc : c.toInt with
      | error e =>
        rw [hl, hc] at h
        cases h
      | ok column =>
        rw [hl, hc] at h
        cases h
        trivial
  · split at h
    · next p _ =>
      cases hp : p.toInt with
      | error e =>
        rw [hp] at h
        cases h
      | ok offset =>
        rw [hp] at h
        cases h
        trivial
    · cases h
      trivial

end Diagnosis

theorem Check.quotes_run {check : Check} {message : Text} {d : Diagnosis}
    (h : check.run t t.lines message = some d) : d.hint.Quotes t.OnLine := by
  cases check with
  | unterminatedString =>
    rw [run, Option.ite_none_right_eq_some] at h
    exact Diagnosis.quotes_unterminatedString h.2
  | missingComma =>
    refine Diagnosis.quotes_firstPair (fun n l next d hd => ?_) h
    simp only [Option.ite_none_left_eq_some, Option.ite_none_right_eq_some] at hd
    obtain ⟨-, -, hd⟩ := hd
    cases hd
    trivial
  | missingColon =>
    refine Diagnosis.quotes_firstPair (fun n l next d hd => ?_) h
    simp only [Option.ite_none_right_eq_some] at hd
    obtain ⟨-, hd⟩ := hd
    cases hd
    trivial
  | delimiterBalance => exact Diagnosis.quotes_brackets h
  | trailingComma =>
    refine Diagnosis.quotes_firstPair (fun n l next d hd => ?_) h
    simp only [Option.ite_none_right_eq_some] at hd
    obtain ⟨-, hd⟩ := hd
    split at hd
    · obtain ⟨b, -, rfl⟩ := Option.map_eq_some_iff.mp hd
      trivial
    · cases hd
  | duplicateKey =>
    refine Diagnosis.quotes_duplicateKey (fun l hl key hkey => ?_) h
    exact ⟨l, hl, Text.infix_of_keyBeforeColon hkey⟩

theorem quotes_diagnose {message : Text} {d : Diagnosis} (h : diagnose t message = .ok d) :
    d.hint.Quotes t.OnLine := by
  rw [diagnose] at h
  split at h
  · next found hfound =>
    cases h
    obtain ⟨check, -, hrun⟩ := List.exists_of_findSome?_eq_some hfound
    exact Check.quotes_run hrun
  · exact Diagnosis.quotes_ofMessage h

/-! ### Messages -/

theorem inline_faultMessage (f : Fault) : Text.Inline (f.message t) := by
  have hnumber := Text.inline_ofNat
  cases f with
  | misread what left =>
    have hphrase : Text.Inline what.phrase := by cases what <;> decide
    exact (((((hphrase.append (by decide)).append (hnumber _)).append (by decide)).append
      (hnumber _)).append (by decide)).append (hnumber _) |>.append (by decide)
  | constant which => exact .append (by decide) (by cases which <;> decide)
  | tooDeep container =>
    exact (Text.Inline.append (by decide) (by cases container <;> decide)).append (by decide)
  | tooLong digits =>
    exact (((Text.Inline.append (by decide) (hnumber _)).append (by decide)).append
      (hnumber _)).append (by decide)

theorem printed_of_validate {message : Text} {d : Diagnosis} (h : validate t = .invalid message d) :
    message.Inline ∧ d.hint.text.Quoting t.OnLine := by
  unfold validate at h
  split at h
  · cases h
  · split at h
    · cases h
    · next fault _ =>
      cases h
      refine ⟨(inline_faultMessage fault).of_subset (Text.withoutOpenings_subset _), ?_⟩
      split
      · next d hdiagnose => exact (quotes_diagnose hdiagnose).quoting
      · exact .inl (by decide)

/-! ### Entries -/

theorem inline_stamp (now : Stamp) : Text.Inline now.text := by
  have htwo := Text.inline_ofNatPadded 2
  exact (((((((((Text.Inline.append (Text.inline_ofNat _) (by decide)).append (htwo _)).append
    (by decide)).append (htwo _)).append (by decide)).append (htwo _)).append (by decide)).append
    (htwo _)).append (by decide)).append (htwo _)

theorem inline_number (n : Option Nat) : Text.Inline (Json.ofNat? n).display := by
  cases n with
  | none => decide
  | some n =>
    have hdisplay : (Json.ofNat? (some n)).display = Text.ofNat n := by
      simp [Json.ofNat?, Json.ofNat, Json.display, Json.write, Json.pushValue, Json.push, Text.ofInt]
    rw [hdisplay]
    exact Text.inline_ofNat n

structure PrintedNote (t message : Text) (remark : Remark) : Prop where
  message : message.Inline
  line : remark.line.display.Inline
  column : remark.column.display.Inline
  suggestion : (remark.suggestion.orText "-").Quoting t.OnLine

theorem printedNote_ofText (t : Text) :
    PrintedNote t (((Report.ofText t).error.map (·.message)).getD [])
      (((Report.ofText t).error.map (·.remark)).getD ⟨.null, .null, .null⟩) := by
  unfold Report.ofText
  cases hvalidate : validate t with
  | valid v =>
    have hnull : Json.null.display.Inline := by decide
    have hdash : (Json.null.orText "-").Inline := by decide
    exact ⟨fun c hc => (List.not_mem_nil hc).elim, hnull, hnull, .inl hdash⟩
  | invalid message d =>
    obtain ⟨hmessage, hhint⟩ := printed_of_validate hvalidate
    refine ⟨hmessage, inline_number _, inline_number _, ?_⟩
    have hsuggestion : (Json.str d.hint.text).orText "-" = d.hint.text :=
      Json.orText_str d.hint.text_ne_nil "-"
    exact hsuggestion ▸ hhint

namespace Log

def body (now : Stamp) (action message : Text) (remark : Remark) (shown : Text) : Text :=
  "time=" ++ now.text ++ " action=" ++ action ++ "\nmsg=" ++ message
    ++ " line=" ++ remark.line.display ++ " col=" ++ remark.column.display
    ++ "\nsuggestion=" ++ remark.suggestion.orText "-" ++ "\n" ++ shown ++ "\n"

inductive Body (now : Stamp) (action t : Text) : Text → Prop
  | of_note {message : Text} {remark : Remark} (first stop : Int) : PrintedNote t message remark →
    Body now action t (body now action message remark
      (Text.join "\n" (context t.lines first stop)).stripRight)

theorem exists_body {now : Stamp} {action entry : Text}
    (h : Log.entry now action t (Report.ofText t) = .ok entry) :
    ∃ b, Body now action t b ∧ entry = marker ++ b := by
  have hnote := printedNote_ofText t
  unfold Log.entry at h
  generalize (Option.map (·.message) (Report.ofText t).error).getD [] = message at h hnote
  generalize (Option.map (·.remark) (Report.ofText t).error).getD ⟨.null, .null, .null⟩ = remark
    at h hnote
  dsimp only [bind, Except.bind] at h
  split at h
  · cases h
  · next bounds _ =>
    cases h
    refine ⟨_, .of_note bounds.1 bounds.2 hnote, ?_⟩
    simp only [body, List.append_assoc]

end Log

theorem Log.exists_of_mem_context {lines : List Text} {first stop : Int} {l : Text}
    (h : l ∈ context lines first stop) : ∃ n, ∃ line ∈ lines, l = Text.ofNat n ++ ": " ++ line := by
  obtain ⟨i, hi, rfl⟩ := List.exists_of_mem_mapIdx h
  exact ⟨_, _, List.mem_of_mem_drop (List.mem_of_mem_take (List.getElem_mem hi)), rfl⟩

theorem clean_context {lines : List Text} (h : ∀ l ∈ lines, Clean l) (first stop : Int) :
    ∀ l ∈ Log.context lines first stop, Clean l := by
  intro l hl
  obtain ⟨n, line, hline, rfl⟩ := Log.exists_of_mem_context hl
  exact ((Text.inline_ofNat n).clean.append (clean_ofString _)).append (h line hline)

theorem clean_entry {now : Stamp} {action entry : Text} (haction : Clean action) (ht : Clean t)
    (h : Log.entry now action t (Report.ofText t) = .ok entry) : Clean entry := by
  have hstring := clean_ofString
  obtain ⟨b, ⟨first, stop, hnote⟩, rfl⟩ := Log.exists_body h
  have hlines : ∀ l ∈ t.lines, Clean l := fun l hl =>
    clean_of_subset (Text.infix_of_mem_lines hl).subset ht
  have hshown : Clean (Text.join "\n" (Log.context t.lines first stop)).stripRight :=
    clean_of_subset (Text.isPrefix_dropRightWhile _ _).subset
      (clean_join (hstring _) (clean_context hlines _ _))
  have hhint := hnote.suggestion.clean fun name hname => clean_of_subset hname.subset ht
  have hhead := (((hstring "time=").append (inline_stamp now).clean).append
    (hstring " action=")).append haction
  have hplace := ((((hhead.append (hstring "\nmsg=")).append hnote.message.clean).append
    (hstring " line=")).append hnote.line.clean).append (hstring " col=")
  have hsuggestion := ((hplace.append hnote.column.clean).append (hstring "\nsuggestion=")).append
    hhint
  exact (hstring "\n---\n").append
    (((hsuggestion.append (hstring "\n")).append hshown).append (hstring "\n"))

end JsonDesk
