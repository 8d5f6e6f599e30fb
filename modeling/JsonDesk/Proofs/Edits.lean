import JsonDesk.Proofs.Alarms

set_option autoImplicit false

namespace JsonDesk

namespace Text

/-- The text without the last of its code points that is `c`. -/
def withoutLast (c : CodePoint) (t : Text) : Text := (t.reverse.erase c).reverse

def editLine (t : Text) (i : Nat) (f : Text → Text) : Text := join "\n" (t.lines.modify i f)

def further (ls : List Text) : Text := (ls.map (ofString "\n" ++ ·)).flatten

variable {t l : Text} {before after : List Text} {f : Text → Text}

theorem withoutLast_append (y : Text) {c : CodePoint} {b : Text} (h : c ∉ b) :
    withoutLast c (y ++ c :: b) = y ++ b := by
  have hb : c ∉ b.reverse := by simpa using h
  simp [withoutLast, List.erase_append_right _ hb]

theorem mem_of_mem_withoutLast {c d : CodePoint} (h : c ∈ withoutLast d t) : c ∈ t := by
  rw [withoutLast, List.mem_reverse] at h
  exact List.mem_reverse.mp (List.mem_of_mem_erase h)

theorem further_cases (ls : List Text) :
    ls = [] ∧ further ls = [] ∨ ∃ s, further ls = CodePoint.ofChar '\n' :: s := by
  cases ls with
  | nil => exact .inl ⟨rfl, rfl⟩
  | cons l ls => exact .inr ⟨_, rfl⟩

theorem eq_of_lines (h : t.lines = before ++ l :: after) :
    t = led '\n' before ++ (l ++ further after) := eq_led_append h

theorem lines_modify (h : t.lines = before ++ l :: after) (f : Text → Text) :
    t.lines.modify before.length f = before ++ f l :: after := by
  rw [h, List.modify_eq_take_cons_drop (by simp)]
  simp

theorem editLine_eq (h : t.lines = before ++ l :: after) (f : Text → Text) :
    t.editLine before.length f = led '\n' before ++ (f l ++ further after) := by
  rw [editLine, lines_modify h]
  exact join_append before (f l) after

theorem lines_editLine (h : t.lines = before ++ l :: after) (hf : ∀ c ∈ f l, c ∈ l) :
    (t.editLine before.length f).lines = before ++ f l :: after := by
  have hunbroken := unbroken_lines t
  rw [h] at hunbroken
  rw [editLine, lines_modify h]
  refine lines_join (by simp) fun k hk => ?_
  simp only [List.mem_append, List.mem_cons] at hk
  rcases hk with hk | rfl | hk
  · exact hunbroken k (by simp [hk])
  · exact fun hnew => hunbroken l (by simp) (hf _ hnew)
  · exact hunbroken k (by simp [hk])

theorem not_isBlank_of_mem (h : CodePoint.ofChar '"' ∈ t) : t.isBlank = false := by
  rw [isBlank, List.all_eq_false]
  exact ⟨_, h, by decide⟩

end Text

open Grammar

namespace Verdict

variable {t : Text}

theorem exists_document [StackRoom] (h : (validate t).isValid = true) (hblank : t.isBlank = false) :
    ∃ v, Document .strict maxDepth t v := by
  obtain ⟨v, hv⟩ := isValid_iff.mp h
  exact ⟨v, Json.decode_eq_ok_iff.mp ((validate_eq_valid hblank).mp hv)⟩

theorem outside_of_valid [StackRoom] (h : (validate t).isValid = true) :
    ∀ l ∈ t.lines, Outside l := by
  obtain ⟨last, hflow⟩ := Diagnosis.exists_flow_of_valid h
  exact hflow.lines.outside

theorem validate_refused [StackRoom] {e : Fault} {d : Diagnosis} (hblank : t.isBlank = false)
    (he : Json.decode .strict t = .error e) (hd : diagnose t (e.message t) = .ok d) :
    ∃ message, validate t = .invalid message d :=
  ⟨(e.message t).withoutOpenings, by
    simp only [validate, hblank, Bool.false_eq_true, if_false, he, hd]⟩

end Verdict

theorem diagnose_unterminated {t message : Text} {d : Diagnosis}
    (hmessage : message.tellsUnterminated = true)
    (hd : Diagnosis.unterminatedString t.lines = some d) : diagnose t message = .ok d := by
  simp [diagnose, Check.all, Check.run, hmessage, hd]

theorem diagnose_missingComma {t message : Text} {d : Diagnosis}
    (hnone : Diagnosis.unterminatedString t.lines = none)
    (hd : Diagnosis.missingComma t.lines = some d) : diagnose t message = .ok d := by
  simp [diagnose, Check.all, Check.run, hnone, hd]

end JsonDesk
