import JsonDesk.Proofs.Completeness
import JsonDesk.Proofs.Outside

/-!
Beginnings of documents.  Wherever a quote or a comma stands outside strings, what is before it is a
beginning behind which a string, or a comma, is due: so many containers are open, and in each of
them some elements or members are complete.
-/

set_option autoImplicit false

namespace JsonDesk.Grammar
open Text (led led_nil led_cons)

def Element.Derived (how : Reading) (n : Nat) (e : Element) : Prop :=
  e.Spaced ∧ Value how n e.text e.value

def Field.Derived (how : Reading) (n : Nat) (f : Field) : Prop :=
  f.Spaced ∧ Body f.body f.name ∧ Value how n f.element.text f.element.value

def Field.opening (f : Field) : Text := f.before ++ "\"" ++ f.body ++ "\"" ++ f.after ++ ":"

theorem Field.spelled_eq (f : Field) : f.spelled = f.opening ++ f.element.spelled := rfl

/-- What the grammar has at a place. -/
inductive Due
  | string | comma

/-- `LeadsTo how n p d`: with containers nested at most `n` deep a document can begin with the text
and have a string, or a comma, behind it. -/
inductive LeadsTo (how : Reading) : Nat → Text → Due → Prop
  | start {n : Nat} {g : Text} : Gap g → LeadsTo how n g .string
  | inElement {n : Nat} {g p : Text} {es : List Element} {d : Due} :
    Gap g → (∀ e ∈ es, e.Derived how n) → LeadsTo how n p d →
      LeadsTo how (n + 1) (g ++ CodePoint.ofChar '[' :: (led ',' (es.map Element.spelled) ++ p)) d
  | afterElement {n : Nat} {g : Text} {es : List Element} {e : Element} :
    Gap g → (∀ e ∈ es, e.Derived how n) → e.Derived how n →
      LeadsTo how (n + 1)
        (g ++ CodePoint.ofChar '[' :: (led ',' (es.map Element.spelled) ++ e.spelled)) .comma
  | atName {n : Nat} {g g' : Text} {fs : List Field} :
    Gap g → (∀ f ∈ fs, f.Derived how n) → Gap g' →
      LeadsTo how (n + 1)
        (g ++ CodePoint.ofChar '\x7b' :: (led ',' (fs.map Field.spelled) ++ g')) .string
  | inMember {n : Nat} {g p : Text} {fs : List Field} {f : Field} {d : Due} :
    Gap g → (∀ f ∈ fs, f.Derived how n) → f.Derived how n → LeadsTo how n p d →
      LeadsTo how (n + 1)
        (g ++ CodePoint.ofChar '\x7b' :: (led ',' (fs.map Field.spelled) ++ (f.opening ++ p))) d
  | afterMember {n : Nat} {g : Text} {fs : List Field} {f : Field} :
    Gap g → (∀ f ∈ fs, f.Derived how n) → f.Derived how n →
      LeadsTo how (n + 1)
        (g ++ CodePoint.ofChar '\x7b' :: (led ',' (fs.map Field.spelled) ++ f.spelled)) .comma

/-- What a code point is that stands behind a beginning and outside strings. -/
inductive Fits (how : Reading) (n : Nat) (p : Text) : CodePoint → Prop
  | string : LeadsTo how n p .string → Fits how n p '"'
  | comma : LeadsTo how n p .comma → Fits how n p ','
  | other {c : CodePoint} :
    Json.isLayout c = true ∨ Atomic c ∨ c ∈ Text.ofString "[]\x7b\x7d:" → Fits how n p c

theorem Fits.imp {how : Reading} {n m : Nat} {p q : Text} {c : CodePoint} (h : Fits how n p c)
    (hlead : ∀ d, LeadsTo how n p d → LeadsTo how m q d) : Fits how m q c := by
  cases h with
  | string h => exact .string (hlead _ h)
  | comma h => exact .comma (hlead _ h)
  | other h => exact .other h

/-- So it is, with what stands before it, of each code point that stands outside strings. -/
def Everywhere (t : Text) (P : Text → CodePoint → Prop) : Prop :=
  ∀ p c r, t = p ++ c :: r → Outside p → P p c

namespace Everywhere

variable {t u : Text} {P Q : Text → CodePoint → Prop}

theorem imp (h : Everywhere t P) (hPQ : ∀ p c, P p c → Q p c) : Everywhere t Q :=
  fun p c r ht hp => hPQ p c (h p c r ht hp)

theorem of_mem (h : ∀ c ∈ t, ∀ p, P p c) : Everywhere t P := by
  rintro p c r rfl -
  exact h c (by simp) p

theorem append (ht : Outside t) (h : Everywhere t P) (hu : Everywhere u fun p c => P (t ++ p) c) :
    Everywhere (t ++ u) P := by
  intro p c r heq hp
  obtain ⟨q, rfl, hq⟩ | ⟨q, rfl, hq⟩ := List.append_eq_append_iff.mp heq
  · exact hu q c r hq (ht.cancel hp)
  · cases q with
    | nil => simpa using hu [] c r hq.symm .nil
    | cons d q =>
      obtain ⟨rfl, -⟩ := List.cons.inj hq
      exact h p _ q rfl hp

theorem cons {c : CodePoint} (hc : Outside [c]) (h : P [] c)
    (ht : Everywhere t fun p d => P (c :: p) d) : Everywhere (c :: t) P := by
  refine append (t := [c]) hc ?_ ht
  intro p d r heq _
  cases p with
  | nil =>
    obtain ⟨rfl, -⟩ := List.cons.inj heq
    exact h
  | cons e p => simp at heq

theorem string {w : Text} (hw : Quoted w) (h : P [] (CodePoint.ofChar '"')) :
    Everywhere ("\"" ++ w ++ "\"") P := by
  intro p c r heq hp
  rw [← List.append_nil (_ ++ _), string_append_eq] at heq
  cases p with
  | nil =>
    obtain ⟨rfl, -⟩ := List.cons.inj heq
    exact h
  | cons d p =>
    obtain ⟨rfl, htail⟩ := List.cons.inj heq
    obtain ⟨hq, -⟩ | ⟨-, w', q, hw', -, rfl⟩ := outside_cons_iff.mp hp
    · exact absurd rfl hq
    · rw [List.append_eq, List.append_assoc, List.cons_append] at htail
      have hrest := (hw.unique hw' htail).2
      simp at hrest

theorem commas {α : Type} {f : α → Text} {as : List α} (hne : as ≠ [])
    (hout : ∀ a ∈ as, Outside (f a))
    (h : ∀ done a, done ⊆ as → a ∈ as →
      Everywhere (f a) (fun p c => P (led ',' (done.map f) ++ p) c) ∧
        P (led ',' (done.map f) ++ f a) (CodePoint.ofChar ',')) :
    Everywhere (commas (as.map f)) P := by
  induction as generalizing P with
  | nil => exact absurd rfl hne
  | cons a as ih =>
    have hfirst := h [] a (by simp) (by simp)
    by_cases has : as = []
    · subst has
      simpa using hfirst.1
    · have hcommas : Grammar.commas ((a :: as).map f) =
          f a ++ CodePoint.ofChar ',' :: Grammar.commas (as.map f) := by
        have hne' : as.map f ≠ [] := by simpa using has
        simpa using Json.commas_cons_append (f a) hne' []
      rw [hcommas]
      refine append (hout a (by simp)) (by simpa using hfirst.1) ?_
      refine cons (.plain (by decide) (by decide) .nil) (by simpa using hfirst.2) ?_
      refine ih has (fun b hb => hout b (by simp [hb])) fun done b hdone hb => ?_
      simpa using h (a :: done) b (List.cons_subset_cons a hdone) (by simp [hb])

end Everywhere

/-! ### Documents -/

variable {how : Reading} {n : Nat} {t w g : Text} {v : Json} {e : Element} {f : Field}

theorem Gap.outside (h : Gap g) : Outside g := (h.flow ⟨none, []⟩).outside

theorem Value.outside (h : Value how n w v) : Outside w := by
  obtain ⟨_, -, hflow⟩ := fluent_value h ⟨none, []⟩ (by simp [Ready])
  exact hflow.outside

theorem Quoted.outside (h : Quoted w) : Outside ("\"" ++ w ++ "\"") := by
  simpa [Text.ofString] using Outside.string h .nil

theorem Element.Derived.outside (h : e.Derived how n) : Outside e.spelled :=
  (h.1.1.outside.append h.2.outside).append h.1.2.outside

theorem Field.Derived.outside (h : f.Derived how n) : Outside f.spelled := by
  obtain ⟨⟨hbefore, hafter, hspaced⟩, hbody, hvalue⟩ := h
  have hname := (hbefore.outside.append hbody.quoted.outside).append hafter.outside
  have hcolon : Outside ":" := .plain (by decide) (by decide) .nil
  have helement : f.element.Derived how n := ⟨hspaced, hvalue⟩
  have hspelled := (hname.append hcolon).append helement.outside
  simpa [Field.spelled] using hspelled

theorem everywhere_gap {P : Text → CodePoint → Prop} (hg : Gap g)
    (h : ∀ p c, Json.isLayout c = true → P p c) : Everywhere g P :=
  .of_mem fun c hc p => h p c (isLayout_iff.mpr (hg c hc))

theorem everywhere_element (he : e.Derived how n)
    (h : ∀ g, Gap g → Everywhere e.text fun p c => Fits how n (g ++ p) c) :
    Everywhere e.spelled (Fits how n) := by
  refine .append (he.1.1.outside.append he.2.outside) ?_ ?_
  · exact .append he.1.1.outside (everywhere_gap he.1.1 fun p c hc => .other (.inl hc))
      (h _ he.1.1)
  · exact everywhere_gap he.1.2 fun p c hc => .other (.inl hc)

theorem everywhere_field {P : Text → CodePoint → Prop} (hf : f.Derived how n)
    (h : Everywhere f.element.spelled (Fits how n)) (hname : P f.before (CodePoint.ofChar '"'))
    (hother : ∀ p c, Json.isLayout c = true ∨ c = CodePoint.ofChar ':' → P p c)
    (hvalue : ∀ p c, Fits how n p c → P (f.opening ++ p) c) : Everywhere f.spelled P := by
  obtain ⟨⟨hbefore, hafter, -⟩, hbody, -⟩ := hf
  have hshape : f.spelled =
      f.before ++ (("\"" ++ f.body ++ "\"") ++
        (f.after ++ CodePoint.ofChar ':' :: f.element.spelled)) := by
    simp [Field.spelled, Text.ofString]
  rw [hshape]
  refine .append hbefore.outside (everywhere_gap hbefore fun p c hc => hother _ c (.inl hc)) ?_
  refine .append hbody.quoted.outside (.string hbody.quoted (by simpa using hname)) ?_
  refine .append hafter.outside (everywhere_gap hafter fun p c hc => hother _ c (.inl hc)) ?_
  refine .cons (.plain (by decide) (by decide) .nil) (hother _ _ (.inr rfl)) ?_
  refine h.imp fun p c hp => ?_
  simpa [Field.opening, Text.ofString] using hvalue p c hp

theorem everywhere_atomic {g : Text} (h : ∀ c ∈ t, Atomic c) :
    Everywhere t fun p c => Fits how n (g ++ p) c :=
  .of_mem fun c hc _ => .other (.inr (.inl (h c hc)))

theorem everywhere_container {g : Text} (b : Bracket) (ht : Outside t)
    (h : Everywhere t fun p c => Fits how n (g ++ b.opener :: p) c) :
    Everywhere (b.opener :: t ++ [b.closer]) fun p c => Fits how n (g ++ p) c := by
  have hopener : Outside [b.opener] := by cases b <;> exact .plain (by decide) (by decide) .nil
  have hopener' : b.opener ∈ Text.ofString "[]\x7b\x7d:" := by cases b <;> decide
  have hcloser : ∀ c ∈ [b.closer], c ∈ Text.ofString "[]\x7b\x7d:" := by cases b <;> decide
  refine .append (hopener.append ht) (.cons hopener (.other (.inr (.inr hopener'))) h) ?_
  exact .of_mem fun c hc _ => .other (.inr (.inr (hcloser c hc)))

theorem outside_commas {ts : List Text} (h : ∀ t ∈ ts, Outside t) : Outside (commas ts) := by
  induction ts with
  | nil => exact .nil
  | cons t ts ih =>
    by_cases hts : ts = []
    · subst hts
      simpa using h t (by simp)
    · have hcomma : Outside "," := .plain (by decide) (by decide) .nil
      rw [commas_cons t hts]
      exact ((h t (by simp)).append hcomma).append (ih fun u hu => h u (by simp [hu]))

theorem everywhere_value (h : Value how n w v) :
    ∀ g, Gap g → Everywhere w fun p c => Fits how n (g ++ p) c := by
  induction h with
  | null => exact fun g _ => everywhere_atomic (by decide)
  | yes => exact fun g _ => everywhere_atomic (by decide)
  | no => exact fun g _ => everywhere_atomic (by decide)
  | @constant _ c => exact fun g _ => everywhere_atomic (atomic_word c)
  | number hm => exact fun g _ => everywhere_atomic hm.atomic
  | string hw =>
    intro g hg
    exact .string hw.quoted (.string (by simpa using .start hg))
  | emptyArray hg =>
    intro g _
    exact everywhere_container .square hg.outside (everywhere_gap hg fun _ _ hc => .other (.inl hc))
  | @array n es hne hs hval ih =>
    intro g hg
    have hes : ∀ e ∈ es, e.Derived how n := fun e he => ⟨hs e he, hval e he⟩
    have hout : ∀ e ∈ es, Outside e.spelled := fun e he => (hes e he).outside
    refine everywhere_container .square (outside_commas (by simpa using hout))
      (.commas hne hout fun done e hdone he => ?_)
    have hdone' : ∀ e ∈ done, e.Derived how n := fun e he => hes e (hdone he)
    refine ⟨(everywhere_element (hes e he) (ih e he)).imp fun p c hp => ?_, ?_⟩
    · exact hp.imp fun d hd => .inElement hg hdone' hd
    · exact .comma (.afterElement hg hdone' (hes e he))
  | emptyObject hg =>
    intro g _
    exact everywhere_container .brace hg.outside (everywhere_gap hg fun _ _ hc => .other (.inl hc))
  | @object n fs hne hs hb hval ih =>
    intro g hg
    have hfs : ∀ f ∈ fs, f.Derived how n := fun f hf => ⟨hs f hf, hb f hf, hval f hf⟩
    have hout : ∀ f ∈ fs, Outside f.spelled := fun f hf => (hfs f hf).outside
    refine everywhere_container .brace (outside_commas (by simpa using hout))
      (.commas hne hout fun done f hdone hf => ?_)
    have hdone' : ∀ f ∈ done, f.Derived how n := fun f hf => hfs f (hdone hf)
    have helement := everywhere_element ⟨(hs f hf).2.2, hval f hf⟩ (ih f hf)
    refine ⟨everywhere_field (hfs f hf) helement ?_ ?_ ?_, ?_⟩
    · exact .string (.atName hg hdone' (hs f hf).1)
    · rintro p c (hc | rfl)
      · exact .other (.inl hc)
      · exact .other (.inr (.inr (by decide)))
    · exact fun p c hp => hp.imp fun d hd => .inMember hg hdone' (hfs f hf) hd
    · exact .comma (.afterMember hg hdone' (hfs f hf))

/-- In a document each code point outside strings is one that fits there. -/
theorem Document.everywhere (h : Document how n t v) : Everywhere t (Fits how n) := by
  obtain @⟨e, hs, hv⟩ := h
  exact everywhere_element ⟨hs, hv⟩ (everywhere_value hv)

theorem LeadsTo.exists_value {p : Text} (h : LeadsTo how n p .comma) :
    ∃ q m w v g, p = q ++ w ++ g ∧ Value how m w v ∧ Gap g := by
  generalize hd : Due.comma = d at h
  induction h with
  | start => cases hd
  | @inElement n g p es d _ _ _ ih =>
    obtain ⟨q, m, w, v, g', rfl, hrest⟩ := ih hd
    exact ⟨g ++ CodePoint.ofChar '[' :: (led ',' (es.map Element.spelled) ++ q), m, w, v, g',
      by simp, hrest⟩
  | @afterElement n g es e _ _ he =>
    exact ⟨g ++ CodePoint.ofChar '[' :: (led ',' (es.map Element.spelled) ++ e.before), n, e.text,
      e.value, e.after, by simp [Element.spelled], he.2, he.1.2⟩
  | atName => cases hd
  | @inMember n g p fs f d _ _ _ _ ih =>
    obtain ⟨q, m, w, v, g', rfl, hrest⟩ := ih hd
    exact ⟨g ++ CodePoint.ofChar '\x7b' :: (led ',' (fs.map Field.spelled) ++ (f.opening ++ q)), m,
      w, v, g', by simp, hrest⟩
  | @afterMember n g fs f _ _ hf =>
    exact ⟨g ++ CodePoint.ofChar '\x7b' ::
      (led ',' (fs.map Field.spelled) ++ (f.opening ++ f.element.before)), n, f.element.text,
      f.element.value, f.element.after, by simp [Field.spelled_eq, Element.spelled], hf.2.2,
      hf.1.2.2.2⟩

end JsonDesk.Grammar
