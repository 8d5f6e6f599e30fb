import JsonDesk.Proofs.Edits
import JsonDesk.Proofs.LoneNames
import JsonDesk.Proofs.Offsets
import JsonDesk.Proofs.OnePass
import JsonDesk.Proofs.Serializing

/-!
A closing bracket too many at the end of a document.  The document before it flows as if one more
bracket were open, so no check before that of the brackets finds anything amiss, except that the
last item of an array may look like a name that misses its colon.
-/

set_option autoImplicit false

namespace JsonDesk
open Grammar Text

variable {t : Text} {d : Diagnosis} {b : Bracket} {last : Option CodePoint}

namespace Text

theorem exists_getLast_lines {c : CodePoint} {l : Text} (hc : c ≠ CodePoint.ofChar '\n')
    (h : l ∈ (lines (t ++ [c])).getLast?) : ∃ k, l = k ++ [c] := by
  obtain ⟨ls, hlines⟩ := List.getLast?_eq_some_iff.mp (Option.mem_def.mp h)
  have htext := eq_led_append hlines
  rw [join_singleton] at htext
  cases l using List.reverseRecOn with
  | nil =>
    -- otherwise the text would end with the line feed of the line before
    have hlast := congrArg List.getLast? htext
    rw [List.append_nil, List.getLast?_append_of_ne_nil _ (by simp)] at hlast
    exact absurd (getLast_led hlast.symm) hc
  | append_singleton k d =>
    have hlast := congrArg List.getLast? htext
    rw [← List.append_assoc, List.getLast?_concat, List.getLast?_concat] at hlast
    cases hlast
    exact ⟨k, rfl⟩

end Text

namespace Balance

theorem pass_of_flow (h : Flow ⟨none, []⟩ t ⟨last, []⟩) : pass stepOver start ⟨1, 1⟩ t = .ok start := by
  obtain ⟨l, ls, hl⟩ := List.exists_cons_of_ne_nil (lines_ne_nil t)
  have hnone : ([] : List (Bracket × Position)).map (·.1) = [] := rfl
  obtain ⟨opened, hlines, hopened⟩ := Diagnosis.lines_ok h.lines 1 hnone
  obtain rfl : opened = [] := by simpa using hopened
  rw [hl] at hlines
  exact (pass_stepOver 1 1 start hl).trans hlines

end Balance

namespace Diagnosis
open Balance

theorem brackets_extra (h : Flow ⟨none, []⟩ t ⟨last, []⟩) (b : Bracket) :
    brackets (t ++ [b.closer]) = some ⟨.point t.endPosition, .unexpectedCloser b⟩ := by
  have hcloser (p : Position) : start.stepOver p b.closer = .error ⟨.point p, .unexpectedCloser b⟩ := by
    cases b <;> rfl
  rw [brackets_eq_pass, inOnePass, pass_append, pass_of_flow h]
  simp only [pass_cons_error (hcloser _)]
  rfl

theorem diagnose_missingColon {t message : Text} (hstring : unterminatedString t.lines = none)
    (hcomma : missingComma t.lines = none) (hd : missingColon t.lines = some d) :
    diagnose t message = .ok d := by
  simp [diagnose, Check.all, Check.run, hstring, hcomma, hd]

theorem diagnose_brackets {t message : Text} (hstring : unterminatedString t.lines = none)
    (hcomma : missingComma t.lines = none) (hcolon : missingColon t.lines = none)
    (hd : brackets t = some d) : diagnose t message = .ok d := by
  simp [diagnose, Check.all, Check.run, hstring, hcomma, hcolon, hd]

end Diagnosis

namespace Verdict

theorem validate_unbalanced [StackRoom] (hbrackets : Diagnosis.brackets t ≠ none)
    (hd : ∀ message, diagnose t message = .ok d) : ∃ message, validate t = .invalid message d := by
  have hvalid : ¬ (validate t).isValid = true := fun h => by
    obtain ⟨last, hflow⟩ := Diagnosis.exists_flow_of_valid h
    exact hbrackets (Diagnosis.brackets_none hflow)
  cases hblank : t.isBlank with
  | true =>
    rw [validate_blank hblank] at hvalid
    exact absurd rfl hvalid
  | false =>
    cases hdecode : Json.decode .strict t with
    | ok v =>
      rw [(validate_eq_valid hblank).mpr hdecode] at hvalid
      exact absurd rfl hvalid
    | error e => exact validate_refused hblank hdecode (hd _)

end Verdict

namespace Json

section

variable {n : Nat} {ascii : Bool} {v : Json}

theorem flows_extra (hv : ∀ d, Inside (.float d) v → d.isFinite = true)
    (ht : t = text (indentedStyle n ascii) 0 v) (b : Bracket) :
    ∃ s, Flows ⟨none, [b]⟩ (lines (t ++ [b.closer])) s := by
  subst ht
  obtain ⟨c, hc, hflow⟩ := fluent_text hv 0 ⟨none, [b]⟩ (by simp [Ready])
  exact ⟨_, (hflow.append (.closer b (by simpa using hc) .done)).lines⟩

theorem hasLine_lone_extra (hv : ∀ d, Inside (.float d) v → d.isFinite = true)
    (ht : t = text (indentedStyle n ascii) 0 v) (b : Bracket) :
    HasLine Lone (t ++ [b.closer]) ↔ v.EndsBare := by
  have hbeside : Beside [] [b.closer] := ⟨by simp, .inl (by simp), by cases b <;> decide⟩
  have h := hasLine_lone n ascii hv 0 hbeside
  rw [List.nil_append, ← ht, LoneAt] at h
  simpa using h

theorem missingColon_extra (hv : ∀ d, Inside (.float d) v → d.isFinite = true)
    (ht : t = text (indentedStyle n ascii) 0 v) (b : Bracket) (hends : v.EndsBare) :
    ∃ k, FirstLone (lines (t ++ [b.closer])) k ∧
      Diagnosis.missingColon (lines (t ++ [b.closer])) = some ⟨.line k, .addColon⟩ := by
  have hlone := (hasLine_lone_extra hv ht b).mpr hends
  have hlast : ∀ l ∈ (lines (t ++ [b.closer])).getLast?, ¬ Lone l := by
    intro l hl
    obtain ⟨k, rfl⟩ := exists_getLast_lines (by cases b <;> decide) hl
    exact not_lone_of_last (by cases b <;> decide) (by cases b <;> decide) k
  have hcolon : ¬ HasLine ColonFirst (t ++ [b.closer]) := by
    have htail : CodePoint.ofChar '\n' ∉ [b.closer] := by cases b <;> decide
    have h := not_hasLine_colonFirst n ascii hv 0 List.not_mem_nil htail (by simp [ColonFirst])
    rwa [List.nil_append, ← ht] at h
  exact Diagnosis.exists_missingColon hlone hlast fun l hl hfirst => hcolon ⟨l, hl, hfirst⟩

theorem extra_closer_refused [StackRoom] (hv : ∀ d, Inside (.float d) v → d.isFinite = true)
    (ht : t = text (indentedStyle n ascii) 0 v) (b : Bracket) :
    ∃ message d, validate (t ++ [b.closer]) = .invalid message d ∧
      (¬ v.EndsBare → d = ⟨.point t.endPosition, .unexpectedCloser b⟩) ∧
      (v.EndsBare → ∃ k, FirstLone (lines (t ++ [b.closer])) k ∧ d = ⟨.line k, .addColon⟩) := by
  obtain ⟨s, hflows⟩ := flows_extra hv ht b
  have hstring := Diagnosis.unterminatedString_none hflows.outside
  have hcomma := Diagnosis.missingComma_none hflows
  have hbrackets : Diagnosis.brackets (t ++ [b.closer]) =
      some ⟨.point t.endPosition, .unexpectedCloser b⟩ := by
    subst ht
    obtain ⟨c, -, hflow⟩ := fluent_text hv 0 ⟨none, []⟩ (by simp [Ready])
    exact Diagnosis.brackets_extra hflow b
  have hunbalanced : Diagnosis.brackets (t ++ [b.closer]) ≠ none := by simp [hbrackets]
  by_cases hends : v.EndsBare
  · obtain ⟨k, hk, hcolon⟩ := missingColon_extra hv ht b hends
    obtain ⟨message, hmessage⟩ := Verdict.validate_unbalanced hunbalanced
      fun _ => Diagnosis.diagnose_missingColon hstring hcomma hcolon
    exact ⟨message, _, hmessage, fun h => absurd hends h, fun _ => ⟨k, hk, rfl⟩⟩
  · have hlone : ¬ HasLine Lone (t ++ [b.closer]) := by rwa [hasLine_lone_extra hv ht b]
    have hcolon := Diagnosis.missingColon_none fun l hl hl' => hlone ⟨l, hl, hl'⟩
    obtain ⟨message, hmessage⟩ := Verdict.validate_unbalanced hunbalanced
      fun _ => Diagnosis.diagnose_brackets hstring hcomma hcolon hbrackets
    exact ⟨message, _, hmessage, fun _ => rfl, fun h => absurd h hends⟩

end

theorem inLayout_eq (layout : Layout) (v : Json) :
    ∃ ascii, v.inLayout layout = text (documentStyle layout ascii) 0 v := by
  rw [inLayout]
  simp only [write_eq]
  split
  · exact ⟨true, rfl⟩
  · exact ⟨false, rfl⟩

/-- Behind a serialized container a closing bracket is reported as one too many, at its place,
unless an array inside ends with a text that looks like a name; then the first line with nothing but
such a text is taken for a name that misses its colon.  An indent that cannot be made is a failure. -/
theorem extra_closer_reported [StackRoom] (v : Json) (n : Int) (b : Bracket)
    (hroot : v.kind = .array ∨ v.kind = .object)
    (hv : ∀ d, Inside (.float d) v → d.isFinite = true) (hn : 1 ≤ n) :
    (n < Layout.indexLimit → ∃ t message d, v.serialize (some n) = .ok t ∧
      validate (t ++ [b.closer]) = .invalid message d ∧
      (¬ v.EndsBare → d = ⟨.point t.endPosition, .unexpectedCloser b⟩) ∧
      (v.EndsBare → ∃ k, FirstLone (lines (t ++ [b.closer])) k ∧ d = ⟨.line k, .addColon⟩)) ∧
    (Layout.indexLimit ≤ n → v.serialize (some n) = .error .notIndexSized) := by
  constructor
  · intro hlimit
    have hlayout : Layout.ofIndent (some n) = .indented n.toNat := by
      rw [Layout.ofIndent, if_neg (by omega)]
    have hobstacle : v.obstacle? (.ofIndent (some n)) = none := by
      rw [obstacle?_of_layout (Layout.obstacle?_ofIndent_of_lt (by simpa using hlimit)),
        nonFinite?_eq_none.mpr hv, Option.map_none]
    obtain ⟨ascii, ht⟩ := inLayout_eq (.ofIndent (some n)) v
    have hserialize := serialize_of_none hobstacle
    rw [hlayout] at ht hserialize
    obtain ⟨message, d, hd⟩ := extra_closer_refused hv ht b
    exact ⟨_, message, d, hserialize, hd⟩
  · intro hlimit
    have hstr : ∀ s, v ≠ .str s := by
      rintro s rfl
      simp [kind] at hroot
    refine serialize_of_some ?_
    rw [obstacle?_of_not_str _ hstr, Layout.obstacle?_ofIndent_of_le hlimit]
    rfl

theorem extra_closer_reported_brace :
    ∃ t message,
      serialize (.obj [("a", .arr [.str "b", .null]), ("c", .obj [])]) (some 2) = .ok t ∧
        validate (t ++ [CodePoint.ofChar '\x7d']) =
          .invalid message ⟨.point t.endPosition, .unexpectedCloser .brace⟩ := by
  have hends : ¬ EndsBare (.obj [("a", .arr [.str "b", .null]), ("c", .obj [])]) := by
    simp [EndsBare]
  obtain ⟨t, message, d, ht, hd, hcloser, -⟩ :=
    (extra_closer_reported (.obj [("a", .arr [.str "b", .null]), ("c", .obj [])]) 2 .brace (.inr rfl)
      (by simp) (by decide)).1 (by decide)
  exact ⟨t, message, ht, hcloser hends ▸ hd⟩

/-- A string alone on the last line of an array is taken for a name, whatever follows the array, and
where there is no such string the indent may still be one that cannot be made. -/
theorem not_extra_closer_reported_string :
    (¬ ∀ (v : Json) (n : Int) (b : Bracket), (v.kind = .array ∨ v.kind = .object) →
      (∀ d, Inside (.float d) v → d.isFinite = true) → v.levels ≤ 400 → 1 ≤ n →
        ∃ t message, v.serialize (some n) = .ok t ∧ validate (t ++ [b.closer]) =
          .invalid message ⟨.point t.endPosition, .unexpectedCloser b⟩) ∧
    ¬ ∀ (v : Json) (n : Int), (v.kind = .array ∨ v.kind = .object) →
      (∀ d, Inside (.float d) v → d.isFinite = true) → v.levels ≤ 400 → 1 ≤ n → ¬ v.EndsBare →
        ∃ t, v.serialize (some n) = .ok t := by
  constructor
  · intro h
    obtain ⟨t, message, ht, hmessage⟩ :=
      h (.arr [.str "a"]) 2 .square (.inl rfl) (by simp) (by decide) (by decide)
    obtain ⟨ascii, htext⟩ := inLayout_eq (.indented 2) (.arr [.str "a"])
    have hserialize : serialize (.arr [.str "a"]) (some 2) =
        .ok (inLayout (.indented 2) (.arr [.str "a"])) := serialize_of_none (by decide)
    have hends : EndsBare (.arr [.str "a"]) :=
      ⟨_, "a", .self, rfl, by decide, by decide, by decide⟩
    obtain ⟨message', d, hrefused, -, hname⟩ :=
      extra_closer_refused (by simp) htext .square
    obtain ⟨k, -, rfl⟩ := hname hends
    rw [hserialize] at ht
    cases ht
    have heq := hrefused.symm.trans hmessage
    cases heq
  · intro h
    obtain ⟨t, ht⟩ := h (.arr []) 9223372036854775808 (.inl rfl) (by simp) (by decide) (by decide)
      (by simp [EndsBare])
    cases ht

end Json

end JsonDesk
