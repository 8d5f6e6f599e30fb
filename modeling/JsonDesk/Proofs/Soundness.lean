import JsonDesk.Proofs.Members
import JsonDesk.Proofs.Reader

/-!
What the reader takes, the grammar derives: every value that is read has a derivation from the text
that is gone, nested no deeper than the reader lets it.
-/

set_option autoImplicit false

namespace JsonDesk

namespace Json
open Grammar

variable [StackRoom]

/-- The value at the front of a text spells what is read there. -/
def ValueSound (how : Reading) (t : Text) : Prop :=
  ∀ depth v r, Reads (value how depth t) v r →
    ∃ w, Value how (maxDepth - depth) w v ∧ t = w ++ r

def ElementsSound (how : Reading) (t : Text) : Prop :=
  ∀ depth start h done v r g, Gap g → Reads (elements how depth start t h done) v r →
    ∃ es : List Element, es ≠ [] ∧ (∀ e ∈ es, e.Spaced) ∧
      (∀ e ∈ es, Value how (maxDepth - (depth + 1)) e.text e.value) ∧
      g ++ t = commas (es.map Element.spelled) ++ "]" ++ r ∧
      v = .arr (done.reverse ++ es.map Element.value)

def MembersSound (how : Reading) (t : Text) : Prop :=
  ∀ depth start h done v r g, Gap g → Reads (members how depth start t h done) v r →
    ∃ fs : List Field, fs ≠ [] ∧ (∀ f ∈ fs, f.Spaced) ∧ (∀ f ∈ fs, Body f.body f.name) ∧
      (∀ f ∈ fs, Value how (maxDepth - (depth + 1)) f.element.text f.element.value) ∧
      g ++ t = commas (fs.map Field.spelled) ++ "\x7d" ++ r ∧
      v = .obj (Members.settled (done.reverse ++ fs.map Field.member))

theorem elementsSound_of {how : Reading} {t : Text} (hv : ValueSound how t)
    (ih : ∀ s, s.length < t.length → ElementsSound how s) : ElementsSound how t := by
  intro depth start h done v r g hg hread
  obtain ⟨u, rest, hu, hnext⟩ := reads_elements.mp hread
  obtain ⟨w, hw, rfl⟩ := hv _ _ _ hu
  obtain ⟨g', hg', hrest⟩ := exists_gap rest
  rcases hnext with ⟨hclose, rfl⟩ | ⟨s, h', hcomma, hs⟩
  · refine ⟨[⟨g, w, g', u⟩], by simp, by simp [Element.Spaced, hg, hg'], by simpa using hw, ?_,
      by simp⟩
    rw [hrest, hclose]
    simp [Element.spelled, Text.ofString]
  · obtain ⟨g'', hg'', hs'⟩ := exists_gap s
    have hlen : (skipLayout s).length < (w ++ rest).length := by
      have := length_skipLayout_le s
      have := length_skipLayout_le rest
      rw [hcomma] at this
      simp at this ⊢
      omega
    obtain ⟨es, hne, hspaced, hval, ht, rfl⟩ := ih _ hlen _ _ _ _ _ _ _ hg'' hs
    refine ⟨⟨g, w, g', u⟩ :: es, by simp, ?_, ?_, ?_, by simp⟩
    · simpa [Element.Spaced, hg, hg'] using hspaced
    · simpa [hw] using hval
    · rw [← hs'] at ht
      rw [List.map_cons, commas_cons _ (by simpa using hne), hrest, hcomma, ht]
      simp [Element.spelled, Text.ofString]

theorem membersSound_of {how : Reading} {t : Text}
    (hv : ∀ s, s.length < t.length → ValueSound how s)
    (ih : ∀ s, s.length < t.length → MembersSound how s) : MembersSound how t := by
  intro depth start h done v r g hg hread
  obtain ⟨t', name, rest, rfl, ⟨b, hb, rfl⟩, s, hcolon, u, rest', hu, hnext⟩ :=
    reads_members.mp hread
  obtain ⟨g₁, hg₁, hrest⟩ := exists_gap rest
  obtain ⟨g₂, hg₂, hs⟩ := exists_gap s
  obtain ⟨g₃, hg₃, hrest'⟩ := exists_gap rest'
  have hlen₁ := length_skipLayout_le rest
  have hlen₂ := length_skipLayout_le s
  have hlen₃ := length_skipLayout_le rest'
  rw [hcolon] at hlen₁ hrest
  simp only [List.length_cons] at hlen₁
  obtain ⟨w, hw, hsw⟩ := hv _ (by simp [Text.ofString]; omega) _ _ _ hu
  generalize skipLayout rest' = s₃ at hnext hrest' hlen₃
  have htext : g ++ CodePoint.ofChar '"' :: (b ++ "\"" ++ rest) =
      (⟨g, b, g₁, name, ⟨g₂, w, g₃, u⟩⟩ : Field).spelled ++ s₃ := by
    rw [hrest, hs, hsw, hrest']
    simp [Field.spelled, Element.spelled, Text.ofString]
  have hfield : (⟨g, b, g₁, name, ⟨g₂, w, g₃, u⟩⟩ : Field).Spaced := ⟨hg, hg₁, hg₂, hg₃⟩
  rcases hnext with ⟨hclose, rfl⟩ | ⟨s', h', hcomma, hs'⟩
  · refine ⟨[⟨g, b, g₁, name, ⟨g₂, w, g₃, u⟩⟩], by simp, by simpa using hfield, by simpa using hb,
      by simpa using hw, ?_, ?_⟩
    · rw [htext, hclose]
      simp [Text.ofString]
    · simp [Members.ofList_eq_settled, Field.member]
  · obtain ⟨g₄, hg₄, hs₄⟩ := exists_gap s'
    have hlen : (skipLayout s').length < (CodePoint.ofChar '"' :: (b ++ "\"" ++ rest)).length := by
      have hlen₄ := length_skipLayout_le s'
      have hsw' := congrArg List.length hsw
      rw [hcomma] at hlen₃
      simp [Text.ofString] at hlen₃ hsw' ⊢
      omega
    obtain ⟨fs, hne, hspaced, hbody, hval, ht, rfl⟩ := ih _ hlen _ _ _ _ _ _ _ hg₄ hs'
    refine ⟨⟨g, b, g₁, name, ⟨g₂, w, g₃, u⟩⟩ :: fs, by simp, ?_, ?_, ?_, ?_, ?_⟩
    · simpa [hfield] using hspaced
    · simpa [hb] using hbody
    · simpa [hw] using hval
    · rw [← hs₄] at ht
      rw [List.map_cons, commas_cons _ (by simpa using hne), htext, hcomma, ht]
      simp [Text.ofString]
    · simp [Field.member]

theorem valueSound_of {how : Reading} {t : Text}
    (he : ∀ s, s.length < t.length → ElementsSound how s)
    (hm : ∀ s, s.length < t.length → MembersSound how s) : ValueSound how t := by
  intro depth v r hread
  have hsucc (hd : depth < maxDepth) : maxDepth - depth = maxDepth - (depth + 1) + 1 := by omega
  cases t with
  | nil => simp [value] at hread
  | cons c t =>
    obtain ⟨g, hg, ht⟩ := exists_gap t
    have hlen := length_lt_opened c t (skipLayout t) (Nat.le_refl _)
    by_cases hq : c = CodePoint.ofChar '"'
    · subst hq
      obtain ⟨s, ⟨w, hw, rfl⟩, rfl⟩ := reads_value_string.mp hread
      exact ⟨_, .string hw, by simp [Text.ofString]⟩
    · by_cases hb : c = CodePoint.ofChar '['
      · subst hb
        obtain ⟨hd, ⟨hclose, rfl⟩ | ⟨-, h, hes⟩⟩ := reads_value_array.mp hread
        · rw [hclose] at ht
          rw [hsucc hd]
          exact ⟨_, .emptyArray hg, by rw [ht]; simp [Text.ofString]⟩
        · obtain ⟨es, hne, hspaced, hval, htext, rfl⟩ := he _ hlen _ _ _ _ _ _ _ hg hes
          rw [← ht] at htext
          rw [hsucc hd]
          exact ⟨_, .array hne hspaced hval, by rw [htext]; simp [Text.ofString]⟩
      · by_cases ho : c = CodePoint.ofChar '\x7b'
        · subst ho
          obtain ⟨hd, ⟨hclose, rfl⟩ | ⟨-, h, hfs⟩⟩ := reads_value_object.mp hread
          · rw [hclose] at ht
            rw [hsucc hd]
            exact ⟨_, .emptyObject hg, by rw [ht]; simp [Text.ofString]⟩
          · obtain ⟨fs, hne, hspaced, hbody, hval, htext, rfl⟩ := hm _ hlen _ _ _ _ _ _ _ hg hfs
            rw [← ht] at htext
            rw [hsucc hd]
            exact ⟨_, .object hne hspaced hbody hval, by rw [htext]; simp [Text.ofString]⟩
        · rw [value_scalar hq hb ho] at hread
          exact value_of_reads_scalar _ hread

theorem sound (how : Reading) (t : Text) :
    ValueSound how t ∧ ElementsSound how t ∧ MembersSound how t := by
  induction hn : t.length using Nat.strongRecOn generalizing t with
  | ind n ih =>
    subst hn
    have hv := valueSound_of (fun s hs => (ih _ hs s rfl).2.1) (fun s hs => (ih _ hs s rfl).2.2)
    exact ⟨hv, elementsSound_of hv fun s hs => (ih _ hs s rfl).2.1,
      membersSound_of (fun s hs => (ih _ hs s rfl).1) fun s hs => (ih _ hs s rfl).2.2⟩

end Json

end JsonDesk
