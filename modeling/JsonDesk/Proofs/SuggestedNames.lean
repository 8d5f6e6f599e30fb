import JsonDesk.Document
import JsonDesk.Proofs.Trimming
import Mathlib.Data.List.Induction

/-!
The file name that is suggested for a tab.  Masking leaves no unsafe code point, trimming leaves no
space and no dot at either end, and neither step undoes the other; what then ends like the extension
in lower case ends with it in ASCII, since of the letters of the extension no other code point has
them as its lower case form.
-/

set_option autoImplicit false

namespace JsonDesk

def CodePoint.asciiLower (c : CodePoint) : CodePoint :=
  if 0x41 ≤ c.val ∧ c.val ≤ 0x5A then CodePoint.ofNat (c.val + 0x20) else c

namespace Text

variable {t front ending : Text} {c d : CodePoint}

/-! ### The extension -/

/-- Besides itself only an ASCII capital has it at the end of its lower case form.  The k is out
because of the Kelvin sign, and the combining dot because of the dotted capital I. -/
def IsPlain (d : CodePoint) : Prop := d ≠ CodePoint.ofChar 'k' ∧ d ≠ CodePoint.ofNat 0x307

instance : DecidablePred IsPlain := fun _ => inferInstanceAs (Decidable (_ ∧ _))

theorem lower_of_getLast (hd : IsPlain d) (h : c.lower.getLast? = some d) :
    c.lower = [d] ∧ c.asciiLower = d := by
  obtain ⟨hk, hdot⟩ := hd
  unfold CodePoint.lower at h ⊢
  unfold CodePoint.asciiLower
  split at h
  · next hcapital =>
    rw [if_pos hcapital, if_pos hcapital]
    cases h
    exact ⟨rfl, rfl⟩
  · next hcapital =>
    rw [if_neg hcapital, if_neg hcapital]
    split at h
    · cases h
      exact absurd rfl hk
    · split at h
      · cases h
        exact absurd rfl hdot
      · next hkelvin hdotted =>
        rw [if_neg hkelvin, if_neg hdotted]
        cases h
        exact ⟨rfl, rfl⟩

theorem lower_ne_nil (c : CodePoint) : c.lower ≠ [] := by
  unfold CodePoint.lower
  repeat' split
  all_goals exact List.cons_ne_nil _ _

theorem exists_of_lower (hending : ∀ d ∈ ending, IsPlain d) (h : lower t = front ++ ending) :
    ∃ stem w, t = stem ++ w ∧ w.map CodePoint.asciiLower = ending := by
  induction ending using List.reverseRecOn generalizing t with
  | nil => exact ⟨t, [], by simp, rfl⟩
  | append_singleton ending d ih =>
    obtain rfl | ⟨t, c, rfl⟩ := List.eq_nil_or_concat' t
    · simp [lower] at h
    · have hsplit : lower t ++ c.lower = front ++ ending ++ [d] := by
        simpa [lower] using h
      have hlast : c.lower.getLast? = some d := by
        rw [← List.getLast?_append_of_ne_nil (lower t) (lower_ne_nil c), hsplit]
        exact List.getLast?_concat
      obtain ⟨hlower, hc⟩ := lower_of_getLast (hending d (by simp)) hlast
      rw [hlower] at hsplit
      obtain ⟨stem, w, rfl, hw⟩ :=
        ih (fun e he => hending e (by simp [he])) (List.append_cancel_right hsplit)
      exact ⟨stem, w ++ [c], by simp, by simp [hw, hc]⟩

theorem exists_of_endsWith (h : (lower t).endsWith ".json" = true) :
    ∃ stem w, t = stem ++ w ∧ w.map CodePoint.asciiLower = ".json" := by
  obtain ⟨front, hfront⟩ := List.isSuffixOf_iff_suffix.mp h
  exact exists_of_lower (by decide) hfront.symm

theorem asciiLower_eq_dot (h : c.asciiLower = CodePoint.ofChar '.') : c = CodePoint.ofChar '.' := by
  unfold CodePoint.asciiLower at h
  split at h
  · next hcapital =>
    rw [CodePoint.ofNat, dif_pos (by omega)] at h
    have hval : c.val + 0x20 = 0x2E := congrArg CodePoint.val h
    omega
  · exact h

/-! ### Masking and trimming -/

theorem maskUnsafe_go (inRun : Bool) (t done : Text) (h : ∀ c ∈ done, c.isUnsafe = false) :
    ∀ c ∈ maskUnsafe.go t inRun done, c.isUnsafe = false := by
  have hmask : CodePoint.isUnsafe '_' = false := by decide
  induction t generalizing inRun done with
  | nil => simpa [maskUnsafe.go] using h
  | cons c t ih =>
    rw [maskUnsafe.go]
    split
    · refine ih true _ ?_
      split
      · exact h
      · exact List.forall_mem_cons.mpr ⟨hmask, h⟩
    · next hc => exact ih false _ (List.forall_mem_cons.mpr ⟨Bool.not_eq_true _ ▸ hc, h⟩)

theorem maskUnsafe_safe (t : Text) : ∀ c ∈ maskUnsafe t, c.isUnsafe = false :=
  maskUnsafe_go false t [] (by simp)

/-- Something to put an extension behind: a text without unsafe code points that does not start
with a space or a dot. -/
structure IsStem (t : Text) : Prop where
  ne_nil : t ≠ []
  safe : ∀ c ∈ t, c.isUnsafe = false
  start : t.head? ≠ some (CodePoint.ofChar ' ') ∧ t.head? ≠ some (CodePoint.ofChar '.')

theorem isStem_untitled : IsStem untitled := ⟨by decide, by decide, by decide⟩

theorem isStem_trim (hsafe : ∀ c ∈ t, c.isUnsafe = false)
    (hne : t.trim (fun c => c = ' ' || c = '.') ≠ []) :
    IsStem (t.trim fun c => c = ' ' || c = '.') := by
  have hhead := head_trim (fun c => c = ' ' || c = '.') t
  have hinside := trim_infix (fun c => c = ' ' || c = '.') t
  refine ⟨hne, fun c hc => hsafe c (hinside.subset hc), fun h => ?_, fun h => ?_⟩
  · simpa using hhead _ h
  · simpa using hhead _ h

theorem IsStem.append (h : IsStem t) {u : Text} (hu : ∀ c ∈ u, c.isUnsafe = false) :
    IsStem (t ++ u) := by
  refine ⟨by simp [h.ne_nil], fun c hc => ?_, ?_⟩
  · exact (List.mem_append.mp hc).elim (h.safe c) (hu c)
  · rw [List.head?_append_of_ne_nil t h.ne_nil]
    exact h.start

/-- A name with the extension, without unsafe code points, and with neither a space nor a dot at
its ends. -/
structure IsSafeFileName (t : Text) : Prop where
  /-- It ends with the extension, in ASCII letters of either case, and something stands before. -/
  extension : ∃ stem w, t = stem ++ w ∧ stem ≠ [] ∧ w.map CodePoint.asciiLower = ".json"
  safe : ∀ c ∈ t, c.isUnsafe = false
  start : t.head? ≠ some (CodePoint.ofChar ' ') ∧ t.head? ≠ some (CodePoint.ofChar '.')
  finish : t.getLast? ≠ some (CodePoint.ofChar ' ') ∧ t.getLast? ≠ some (CodePoint.ofChar '.')

/-- The extension cannot be all there is, since it starts with a dot. -/
theorem IsStem.safeFileName {w : Text} (h : IsStem (front ++ w))
    (hw : w.map CodePoint.asciiLower = ".json") : IsSafeFileName (front ++ w) := by
  have hne : w ≠ [] := by
    rintro rfl
    cases hw
  refine ⟨⟨front, w, rfl, ?_, hw⟩, h.safe, h.start, ?_⟩
  · rintro rfl
    obtain ⟨c, w, rfl⟩ := List.exists_cons_of_ne_nil hne
    have hdot : c = CodePoint.ofChar '.' := asciiLower_eq_dot (List.cons.inj hw).1
    exact h.start.2 (congrArg some hdot)
  · rw [List.getLast?_append_of_ne_nil front hne]
    have hlast : w.getLast?.map CodePoint.asciiLower = some (CodePoint.ofChar 'n') := by
      rw [← List.getLast?_map, hw]
      rfl
    constructor <;>
    · intro hend
      rw [hend] at hlast
      exact absurd hlast (by decide)

theorem IsStem.withExtension (h : IsStem t) :
    IsSafeFileName (if (lower t).endsWith ".json" then t else t ++ ".json") := by
  split
  · next hends =>
    obtain ⟨stem, w, rfl, hw⟩ := exists_of_endsWith hends
    exact h.safeFileName hw
  · exact (h.append (by decide)).safeFileName (by decide)

/-- Whatever the name of a tab is, the file name suggested for it is a safe one. -/
theorem downloadName_safe (name : Text) : IsSafeFileName name.downloadName := by
  unfold downloadName
  dsimp only
  split
  · exact isStem_untitled.withExtension
  · next hne => exact (isStem_trim (maskUnsafe_safe _) hne).withExtension

/-- A name that is nothing but the extension keeps what is left of it as its stem. -/
example : downloadName " .Json. " = "Json.json" := by decide

end Text

end JsonDesk
