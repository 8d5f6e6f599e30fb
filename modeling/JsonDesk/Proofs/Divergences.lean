import JsonDesk.Report
import JsonDesk.Proofs.Comparing
import JsonDesk.Proofs.Rewriting

/-!
What a comparison lists.  A location diverges if it is on one side only, while what is around it is
on both, or if it is on both sides with values that cannot be compared further and are not equal.
The differences of two values are their diverging locations, each of them once.
-/

set_option autoImplicit false

namespace JsonDesk

namespace Json
open Difference

/-- The location is reached through containers of equal types on both sides. -/
def Shared (left right : Json) (loc : List Step) : Prop :=
  ∀ front back, loc = front ++ back → back ≠ [] → ∃ v w, left.at? front = some v ∧
    right.at? front = some w ∧ v.kind = w.kind ∧ v.isContainer = true

inductive Diverges (left right : Json) : List Step → Change → Prop
  | removed (front : List Step) {s : Step} {p q v : Json} : left.at? front = some p →
    right.at? front = some q → p.kind = q.kind → left.at? (front ++ [s]) = some v →
    right.at? (front ++ [s]) = none → Diverges left right (front ++ [s]) (.removed v)
  | added (front : List Step) {s : Step} {p q w : Json} : left.at? front = some p →
    right.at? front = some q → p.kind = q.kind → left.at? (front ++ [s]) = none →
    right.at? (front ++ [s]) = some w → Diverges left right (front ++ [s]) (.added w)
  | changed {loc : List Step} {v w : Json} : Shared left right loc → left.at? loc = some v →
    right.at? loc = some w →
    v.kind ≠ w.kind ∨ v.kind = w.kind ∧ v.isContainer = false ∧ v.scalar? ≠ w.scalar? →
    Diverges left right loc (.changed v w)

/-- Equal up to the order of members, numbers being equal if they stand for the same. -/
inductive Alike : Json → Json → Prop
  | scalar {v w : Json} {s : Scalar} : v.scalar? = some s → w.scalar? = some s → Alike v w
  | items {ps : List (Json × Json)} :
    (∀ p ∈ ps, Alike p.1 p.2) → Alike (.arr (ps.map (·.1))) (.arr (ps.map (·.2)))
  | members {ps : List (Text × Json × Json)} {ms ks : Members} :
    (∀ p ∈ ps, Alike p.2.1 p.2.2) → ms.Perm (ps.map fun p => (p.1, p.2.1)) →
      ks.Perm (ps.map fun p => (p.1, p.2.2)) → Alike (.obj ms) (.obj ks)

/-! ### Diverging locations -/

/-- How a location behind a step diverges, by what the step leads to on either side. -/
def Below (loc : List Step) (c : Change) : Option Json → Option Json → Prop
  | some v, some w => Diverges v w loc c
  | some v, none => loc = [] ∧ c = .removed v
  | none, some w => loc = [] ∧ c = .added w
  | none, none => False

theorem kind_of_at?_cons {v w p q : Json} {s : Step} {loc : List Step}
    (hv : v.at? (s :: loc) = some p) (hw : w.at? (s :: loc) = some q) :
    v.kind = w.kind ∧ v.isContainer = true := by
  obtain ⟨a, ha, -⟩ := Option.bind_eq_some_iff.mp hv
  obtain ⟨b, hb, -⟩ := Option.bind_eq_some_iff.mp hw
  exact kind_of_child? ha hb

theorem isContainer_eq {v w : Json} (h : v.kind = w.kind) : v.isContainer = w.isContainer := by
  cases v <;> cases w <;> simp_all [kind, isContainer]

theorem isContainer_of_at?_cons {v p : Json} {s : Step} {loc : List Step}
    (h : v.at? (s :: loc) = some p) : v.isContainer = true := by
  obtain ⟨a, ha, -⟩ := Option.bind_eq_some_iff.mp h
  exact (kind_of_child? ha ha).2

theorem Diverges.kind_eq {v w : Json} {s : Step} {loc : List Step} {c : Change}
    (h : Diverges v w (s :: loc) c) : v.kind = w.kind ∧ v.isContainer = true := by
  generalize hl : s :: loc = l at h
  cases h with
  | @removed front t p q u hp hq hk hu _ =>
    cases front with
    | nil =>
      cases hp
      cases hq
      exact ⟨hk, isContainer_of_at?_cons hu⟩
    | cons r front => exact kind_of_at?_cons hp hq
  | @added front t p q u hp hq hk _ hu =>
    cases front with
    | nil =>
      cases hp
      cases hq
      exact ⟨hk, (isContainer_eq hk).trans (isContainer_of_at?_cons hu)⟩
    | cons r front => exact kind_of_at?_cons hp hq
  | changed _ hv hw _ =>
    subst hl
    exact kind_of_at?_cons hv hw

theorem shared_cons {v w a b : Json} {s : Step} {loc : List Step} (ha : v.child? s = some a)
    (hb : w.child? s = some b) : Shared v w (s :: loc) ↔ Shared a b loc := by
  constructor
  · intro h front back hloc hne
    obtain ⟨p, q, hp, hq, hk⟩ := h (s :: front) back (by rw [hloc]; rfl) hne
    rw [at?_cons, ha] at hp
    rw [at?_cons, hb] at hq
    exact ⟨p, q, hp, hq, hk⟩
  · intro h front back hloc hne
    cases front with
    | nil => exact ⟨v, w, rfl, rfl, kind_of_child? ha hb⟩
    | cons t front =>
      cases hloc
      obtain ⟨p, q, hp, hq, hk⟩ := h front back rfl hne
      exact ⟨p, q, by rw [at?_cons, ha]; exact hp, by rw [at?_cons, hb]; exact hq, hk⟩

theorem Diverges.below {v w : Json} {s : Step} {loc : List Step} {c : Change}
    (h : Diverges v w (s :: loc) c) : Below loc c (v.child? s) (w.child? s) := by
  generalize hl : s :: loc = l at h
  cases h with
  | @removed front t p q u hp hq hk hu hn =>
    cases front with
    | nil =>
      cases hl
      rw [List.nil_append, at?_singleton] at hu hn
      rw [hu, hn]
      exact ⟨rfl, rfl⟩
    | cons r front =>
      cases hl
      obtain ⟨a, ha, hp⟩ := Option.bind_eq_some_iff.mp hp
      obtain ⟨b, hb, hq⟩ := Option.bind_eq_some_iff.mp hq
      rw [List.cons_append, at?_cons, ha] at hu
      rw [List.cons_append, at?_cons, hb] at hn
      rw [ha, hb]
      exact .removed front hp hq hk hu hn
  | @added front t p q u hp hq hk hn hu =>
    cases front with
    | nil =>
      cases hl
      rw [List.nil_append, at?_singleton] at hu hn
      rw [hu, hn]
      exact ⟨rfl, rfl⟩
    | cons r front =>
      cases hl
      obtain ⟨a, ha, hp⟩ := Option.bind_eq_some_iff.mp hp
      obtain ⟨b, hb, hq⟩ := Option.bind_eq_some_iff.mp hq
      rw [List.cons_append, at?_cons, ha] at hn
      rw [List.cons_append, at?_cons, hb] at hu
      rw [ha, hb]
      exact .added front hp hq hk hn hu
  | @changed _ x y hshared hx hy hne =>
    subst hl
    obtain ⟨a, ha, hx⟩ := Option.bind_eq_some_iff.mp hx
    obtain ⟨b, hb, hy⟩ := Option.bind_eq_some_iff.mp hy
    rw [ha, hb]
    exact .changed ((shared_cons ha hb).mp hshared) hx hy hne

theorem Diverges.under {v w a b : Json} {s : Step} {loc : List Step} {c : Change}
    (ha : v.child? s = some a) (hb : w.child? s = some b) (h : Diverges a b loc c) :
    Diverges v w (s :: loc) c := by
  have down {loc : List Step} : v.at? (s :: loc) = a.at? loc := by simp [at?_cons, ha]
  have down' {loc : List Step} : w.at? (s :: loc) = b.at? loc := by simp [at?_cons, hb]
  cases h with
  | removed front hp hq hk hu hn =>
    exact .removed (s :: front) (down.trans hp) (down'.trans hq) hk (down.trans hu)
      (down'.trans hn)
  | added front hp hq hk hn hu =>
    exact .added (s :: front) (down.trans hp) (down'.trans hq) hk (down.trans hn)
      (down'.trans hu)
  | changed hshared hx hy hne =>
    exact .changed ((shared_cons ha hb).mpr hshared) (down.trans hx) (down'.trans hy) hne

theorem diverges_cons {v w : Json} {s : Step} {loc : List Step} {c : Change}
    (hk : v.kind = w.kind) :
    Diverges v w (s :: loc) c ↔ Below loc c (v.child? s) (w.child? s) := by
  refine ⟨Diverges.below, fun h => ?_⟩
  cases ha : v.child? s with
  | none =>
    cases hb : w.child? s with
    | none =>
      rw [ha, hb] at h
      exact h.elim
    | some b =>
      rw [ha, hb] at h
      obtain ⟨rfl, rfl⟩ := h
      exact .added [] rfl rfl hk ((at?_singleton v s).trans ha) ((at?_singleton w s).trans hb)
  | some a =>
    cases hb : w.child? s with
    | none =>
      rw [ha, hb] at h
      obtain ⟨rfl, rfl⟩ := h
      exact .removed [] rfl rfl hk ((at?_singleton v s).trans ha) ((at?_singleton w s).trans hb)
    | some b =>
      rw [ha, hb] at h
      exact .under ha hb h

theorem diverges_nil {v w : Json} {c : Change} : Diverges v w [] c ↔
    (v.kind ≠ w.kind ∨ v.kind = w.kind ∧ v.isContainer = false ∧ v.scalar? ≠ w.scalar?) ∧
      c = .changed v w := by
  constructor
  · intro h
    generalize hl : ([] : List Step) = l at h
    cases h with
    | removed => simp at hl
    | added => simp at hl
    | changed _ hv hw hne =>
      subst hl
      cases hv
      cases hw
      exact ⟨hne, rfl⟩
  · intro h
    obtain ⟨hne, rfl⟩ := h
    refine .changed (fun front back hloc hback => ?_) rfl rfl hne
    exact absurd (List.append_eq_nil_iff.mp hloc.symm).2 hback

/-! ### What is listed -/

theorem mem_branch {s t : Step} {loc : List Step} {c : Change} {v w : Option Json} :
    (⟨s :: loc, c⟩ : Difference) ∈ branch t v w ↔ s = t ∧ match v, w with
      | some v, some w => (⟨loc, c⟩ : Difference) ∈ differences v w
      | some v, none => loc = [] ∧ c = .removed v
      | none, some w => loc = [] ∧ c = .added w
      | none, none => False := by
  cases v with
  | none => cases w <;> simp [branch, and_assoc]
  | some v =>
    cases w with
    | none => simp [branch, and_assoc]
    | some w =>
      simp only [branch, List.mem_map, under, Difference.mk.injEq, List.cons.injEq]
      constructor
      · intro h
        obtain ⟨d, hd, ⟨rfl, rfl⟩, rfl⟩ := h
        exact ⟨rfl, hd⟩
      · intro h
        obtain ⟨rfl, hd⟩ := h
        exact ⟨_, hd, ⟨rfl, rfl⟩, rfl⟩

theorem location_of_mem_branch {s : Step} {v w : Option Json} {d : Difference}
    (h : d ∈ branch s v w) : ∃ loc, d.location = s :: loc := by
  cases v <;> cases w <;> simp [branch] at h
  · exact ⟨[], by rw [h]⟩
  · exact ⟨[], by rw [h]⟩
  · obtain ⟨e, -, rfl⟩ := h
    exact ⟨e.location, rfl⟩

theorem compared_at_once {v w : Json} (h : ¬(v.kind = w.kind ∧ v.isContainer = true)) :
    v.isContainer = false ∨ v.kind ≠ w.kind := by
  by_cases hk : v.kind = w.kind
  · exact .inl (by simpa [hk] using h)
  · exact .inr hk

theorem isContainer_eq_false {v : Json} : v.isContainer = false ↔ v.scalar? ≠ none := by
  cases v <;> simp [isContainer, scalar?]

theorem branch_ne_nil {s : Step} {v w : Option Json} {d : Difference} (h : d ∈ branch s v w) :
    v ≠ none ∨ w ≠ none := by
  cases v <;> cases w <;> simp_all [branch]

theorem mem_differences (loc : List Step) {v w : Json} (c : Change) (hv : Distinct v)
    (hw : Distinct w) : (⟨loc, c⟩ : Difference) ∈ differences v w ↔ Diverges v w loc c := by
  induction loc generalizing v w with
  | nil =>
    rw [diverges_nil]
    by_cases hk : v.kind = w.kind ∧ v.isContainer = true
    · rw [differences_container hk.2 hk.1 hv hw, List.mem_flatMap]
      constructor
      · intro h
        obtain ⟨s, -, hs⟩ := h
        obtain ⟨loc, hloc⟩ := location_of_mem_branch hs
        cases hloc
      · simp [hk.1, hk.2]
    · have honce := compared_at_once hk
      simp only [differences_scalar honce, sameScalar_iff]
      by_cases h : v.kind = w.kind
      · have hscalar : v.isContainer = false := honce.resolve_right (by simp [h])
        have hsome := isContainer_eq_false.mp hscalar
        by_cases hs : v.scalar? = w.scalar?
        · simp [h, hs, hs ▸ hsome]
        · simp [h, hs, hscalar]
      · simp [h]
  | cons s loc ih =>
    by_cases hk : v.kind = w.kind ∧ v.isContainer = true
    · have hbranch : (⟨s :: loc, c⟩ : Difference) ∈ branch s (v.child? s) (w.child? s) ↔
          Below loc c (v.child? s) (w.child? s) := by
        rw [mem_branch]
        cases ha : v.child? s with
        | none => cases w.child? s <;> simp [Below]
        | some a =>
          cases hb : w.child? s with
          | none => simp [Below]
          | some b =>
            simp [Below, ih (hv.inside (inside_of_child? ha)) (hw.inside (inside_of_child? hb))]
      rw [differences_container hk.2 hk.1 hv hw, List.mem_flatMap, diverges_cons hk.1, ← hbranch]
      constructor
      · intro h
        obtain ⟨t, -, ht⟩ := h
        obtain ⟨rfl, -⟩ := mem_branch.mp ht
        exact ht
      · exact fun h => ⟨s, (mem_steps hk.1).mpr (branch_ne_nil h), h⟩
    · constructor
      · intro h
        rw [differences_scalar (compared_at_once hk)] at h
        split at h <;> simp at h
      · exact fun h => absurd h.kind_eq hk

theorem nodup_branch {s : Step} {v w : Option Json}
    (h : ∀ a b, v = some a → w = some b → ((differences a b).map location).Nodup) :
    ((branch s v w).map location).Nodup := by
  cases v with
  | none => cases w <;> simp [branch]
  | some a =>
    cases w with
    | none => simp [branch]
    | some b =>
      have hunder : location ∘ under s = (s :: ·) ∘ location := rfl
      rw [branch, List.map_map, hunder, ← List.map_map]
      exact (h a b rfl rfl).map fun l m hlm => (List.cons.inj hlm).2

theorem nodup_locations (v : Json) {w : Json} (hv : Distinct v) (hw : Distinct w) :
    ((differences v w).map location).Nodup := by
  induction v using descend generalizing w with
  | h v ih =>
    by_cases hk : v.kind = w.kind ∧ v.isContainer = true
    · rw [differences_container hk.2 hk.1 hv hw, List.map_flatMap, List.nodup_flatMap]
      constructor
      · exact fun s _ => nodup_branch fun a b ha hb =>
          ih s a ha (hv.inside (inside_of_child? ha)) (hw.inside (inside_of_child? hb))
      -- the locations behind two steps differ in their first step
      · refine (nodup_steps hv hw).imp fun {s t} hne => ?_
        intro l hs ht
        obtain ⟨d, hd, rfl⟩ := List.mem_map.mp hs
        obtain ⟨e, he, hloc⟩ := List.mem_map.mp ht
        obtain ⟨l, hl⟩ := location_of_mem_branch hd
        obtain ⟨m, hm⟩ := location_of_mem_branch he
        rw [hl, hm] at hloc
        exact hne (List.cons.inj hloc).1.symm
    · rw [differences_scalar (compared_at_once hk)]
      split <;> simp

/-! ### No differences -/

theorem rel_child?_index {vs ws : List Json} {R : Json → Json → Prop}
    (h : ∀ s, Option.Rel R ((arr vs).child? s) ((arr ws).child? s)) :
    ∃ ps : List (Json × Json), vs = ps.map (·.1) ∧ ws = ps.map (·.2) ∧ ∀ p ∈ ps, R p.1 p.2 := by
  have hlength : vs.length = ws.length := by
    by_contra hne
    have hl := h (.index (min vs.length ws.length))
    simp only [child?] at hl
    cases Nat.lt_or_gt_of_ne hne with
    | inl hlt => simp [Nat.min_eq_left (Nat.le_of_lt hlt), hlt] at hl
    | inr hgt => simp [Nat.min_eq_right (Nat.le_of_lt hgt), hgt] at hl
  refine ⟨vs.zip ws, ?_, ?_, fun p hp => ?_⟩
  · rw [List.map_fst_zip (Nat.le_of_eq hlength)]
  · rw [List.map_snd_zip (Nat.le_of_eq hlength.symm)]
  · obtain ⟨i, hi, rfl⟩ := List.mem_iff_getElem.mp hp
    have hvs : i < vs.length := by
      rw [List.length_zip] at hi
      omega
    have hrel := h (.index i)
    simpa [child?, hvs, hlength ▸ hvs] using hrel

theorem perm_of_get? {ms : Members} {ns : List Text} (hms : (Members.names ms).Nodup)
    (hns : ns.Nodup) (h : ∀ n, Members.get? ms n ≠ none ↔ n ∈ ns) :
    ms.Perm (ns.map fun n => (n, (Members.get? ms n).getD .null)) := by
  have hnames : (Members.names ms).Perm ns :=
    (List.perm_ext_iff_of_nodup hms hns).mpr fun n => get?_ne_none.symm.trans (h n)
  have hmap := hnames.map fun n => (n, (Members.get? ms n).getD .null)
  rwa [Members.map_get?_names hms] at hmap

theorem Alike.rel_child? {v w : Json} (h : Alike v w) (hc : v.isContainer = true)
    (hv : Distinct v) (hw : Distinct w) (s : Step) :
    Option.Rel Alike (v.child? s) (w.child? s) := by
  cases h with
  | scalar hs => simp [isContainer_eq_false.mpr (by rw [hs]; simp)] at hc
  | @items ps hps =>
    cases s with
    | key n => exact .none
    | index i =>
      simp only [child?, List.getElem?_map]
      cases hp : ps[i]? with
      | none => exact .none
      | some p => exact .some (hps p (List.mem_of_getElem? hp))
  | @members ps ms ks hps hms hks =>
    cases s with
    | index i => exact .none
    | key n =>
      by_cases hn : ∃ p ∈ ps, p.1 = n
      · obtain ⟨p, hp, rfl⟩ := hn
        have hleft := hms.mem_iff.mpr (List.mem_map_of_mem (f := fun p => (p.1, p.2.1)) hp)
        have hright := hks.mem_iff.mpr (List.mem_map_of_mem (f := fun p => (p.1, p.2.2)) hp)
        rw [child?, child?, Members.get?_of_mem (hv ms .self) hleft,
          Members.get?_of_mem (hw ks .self) hright]
        exact .some (hps p hp)
      · have habsent {ls : Members} {f : Json × Json → Json}
            (hls : ls.Perm (ps.map fun p => (p.1, f p.2))) : Members.get? ls n = none := by
          by_contra hne
          obtain ⟨u, hu⟩ := Option.ne_none_iff_exists'.mp hne
          obtain ⟨p, hp, hpu⟩ := List.mem_map.mp (hls.mem_iff.mp (Members.mem_of_get? hu))
          exact hn ⟨p, hp, congrArg Prod.fst hpu⟩
        rw [child?, child?, habsent hms, habsent hks]
        exact .none

theorem alike_obj {ms ks : Members} (hms : (Members.names ms).Nodup)
    (hks : (Members.names ks).Nodup)
    (hrel : ∀ n, Option.Rel Alike (Members.get? ms n) (Members.get? ks n)) :
    Alike (.obj ms) (.obj ks) := by
  have hsame : ∀ n, Members.get? ks n ≠ none ↔ n ∈ Members.names ms := by
    intro n
    have hr := hrel n
    rw [← get?_ne_none]
    cases hm : Members.get? ms n <;> cases hk : Members.get? ks n <;> simp_all
  let ps := (Members.names ms).map fun n =>
    (n, (Members.get? ms n).getD .null, (Members.get? ks n).getD .null)
  refine @Alike.members ps ms ks (fun p hp => ?_) ?_ ?_
  · obtain ⟨n, hn, rfl⟩ := List.mem_map.mp hp
    obtain ⟨u, hu⟩ := Members.exists_get? hn
    have hr := hrel n
    rw [hu] at hr ⊢
    cases hk : Members.get? ks n with
    | none => simp [hk] at hr
    | some b => simpa [hk] using hr
  · simpa [ps, Function.comp_def] using perm_of_get? hms hms fun n => get?_ne_none
  · simpa [ps, Function.comp_def] using perm_of_get? hks hms hsame

theorem alike_container {v w : Json} (hc : v.isContainer = true) (hk : v.kind = w.kind)
    (hv : Distinct v) (hw : Distinct w) :
    Alike v w ↔ ∀ s, Option.Rel Alike (v.child? s) (w.child? s) := by
  constructor
  · exact fun h s => h.rel_child? hc hv hw s
  · intro h
    cases v with
    | arr vs =>
      cases w with
      | arr ws =>
        obtain ⟨ps, rfl, rfl, hps⟩ := rel_child?_index h
        exact .items hps
      | _ => simp [kind] at hk
    | obj ms =>
      cases w with
      | obj ks => exact alike_obj (hv ms .self) (hw ks .self) fun n => h (.key n)
      | _ => simp [kind] at hk
    | _ => simp [isContainer] at hc

theorem alike_at_once {v w : Json} (h : v.isContainer = false ∨ v.kind ≠ w.kind) :
    Alike v w ↔ v.scalar? ≠ none ∧ v.scalar? = w.scalar? := by
  constructor
  · intro ha
    cases ha with
    | scalar hv hw => simp [hv, hw]
    | items => simp [isContainer, kind] at h
    | members => simp [isContainer, kind] at h
  · intro hs
    obtain ⟨s, hv⟩ := Option.ne_none_iff_exists'.mp hs.1
    exact .scalar hv (hs.2 ▸ hv)

theorem branch_eq_nil {s : Step} {v w : Option Json} :
    branch s v w = [] ↔ Option.Rel (fun a b => differences a b = []) v w := by
  cases v <;> cases w <;> simp [branch]

theorem rel_congr {R S : Json → Json → Prop} {v w : Option Json}
    (h : ∀ a b, v = some a → w = some b → (R a b ↔ S a b)) :
    Option.Rel R v w ↔ Option.Rel S v w := by
  cases v <;> cases w <;> simp [h]

theorem kind_eq_of_scalar? {v w : Json} (h : v.scalar? = w.scalar?) (hv : v.scalar? ≠ none) :
    v.kind = w.kind := by
  cases v <;> cases w <;> simp_all [scalar?, kind]

theorem differences_eq_nil (v : Json) {w : Json} (hv : Distinct v) (hw : Distinct w) :
    differences v w = [] ↔ Alike v w := by
  induction v using descend generalizing w with
  | h v ih =>
    by_cases hk : v.kind = w.kind ∧ v.isContainer = true
    · rw [differences_container hk.2 hk.1 hv hw, alike_container hk.2 hk.1 hv hw,
        List.flatMap_eq_nil_iff]
      have hchild : ∀ s, branch s (v.child? s) (w.child? s) = [] ↔
          Option.Rel Alike (v.child? s) (w.child? s) := fun s =>
        branch_eq_nil.trans (rel_congr fun a b ha hb =>
          ih s a ha (hv.inside (inside_of_child? ha)) (hw.inside (inside_of_child? hb)))
      constructor
      · intro h s
        rw [← hchild]
        by_contra hne
        obtain ⟨d, hd⟩ := List.exists_mem_of_ne_nil _ hne
        exact hne (h s ((mem_steps hk.1).mpr (branch_ne_nil hd)))
      · exact fun h s _ => (hchild s).mpr (h s)
    · have honce := compared_at_once hk
      rw [alike_at_once honce, ← sameScalar_iff, differences_scalar honce]
      constructor
      · intro h
        split at h
        · next hs => exact hs.2
        · cases h
      · intro h
        obtain ⟨hne, heq⟩ := sameScalar_iff.mp h
        simp [h, kind_eq_of_scalar? heq hne]

/-! ### The entries of a comparison -/

/-- A comparison of two documents lists the locations at which they diverge and nothing else, none
of them twice, each under its path.  It lists nothing just if they are equal up to the order of
members. -/
theorem differences_exact [StackRoom] {a b : Text} {l r : Json} (ha : validate a = .valid l)
    (hb : validate b = .valid r) (hna : a.nesting ≤ 400) (hnb : b.nesting ≤ 400) :
    ((differences l r).map location).Nodup ∧
    (∀ loc c, (⟨loc, c⟩ : Difference) ∈ differences l r ↔ Diverges l r loc c) ∧
    ((differences l r).map (DifferenceNote.ofDifference [])).map DifferenceNote.path =
      ((differences l r).map location).map (List.foldl Step.extend []) ∧
    (differences l r = [] ↔ Alike l r) := by
  obtain ⟨t, ht⟩ := Verdict.exists_spelling ha hna
  obtain ⟨u, hu⟩ := Verdict.exists_spelling hb hnb
  refine ⟨nodup_locations l ht.distinct hu.distinct,
    fun loc c => mem_differences loc c ht.distinct hu.distinct, ?_,
    differences_eq_nil l ht.distinct hu.distinct⟩
  simp only [List.map_map]
  refine List.map_congr_left fun d _ => ?_
  obtain ⟨loc, c⟩ := d
  cases c <;> rfl

/-- Of these arrays the first items are equal, the second ones differ in type, and the third one is
on the right only. -/
theorem differences_exact_arrays :
    validate "[null, true]" = .valid (.arr [.null, .bool true]) ∧
      validate "[null, \"\", null]" = .valid (.arr [.null, .str [], .null]) ∧
      Text.nesting "[null, true]" ≤ 400 ∧ Text.nesting "[null, \"\", null]" ≤ 400 ∧
      Diverges (.arr [.null, .bool true]) (.arr [.null, .str [], .null]) [.index 1]
        (.changed (.bool true) (.str [])) ∧
      ¬ Alike (.arr [.null, .bool true]) (.arr [.null, .str [], .null]) := by
  have ha : validate "[null, true]" = .valid (.arr [.null, .bool true]) := by cbv
  have hb : validate "[null, \"\", null]" = .valid (.arr [.null, .str [], .null]) := by cbv
  have hna : Text.nesting "[null, true]" ≤ 400 := by decide
  have hnb : Text.nesting "[null, \"\", null]" ≤ 400 := by decide
  obtain ⟨-, hmem, -, hnil⟩ := differences_exact ha hb hna hnb
  have hlist : differences (.arr [.null, .bool true]) (.arr [.null, .str [], .null]) =
      [⟨[.index 1], .changed (.bool true) (.str [])⟩, ⟨[.index 2], .added .null⟩] := rfl
  refine ⟨ha, hb, hna, hnb, ?_, ?_⟩
  · rw [← hmem, hlist]
    exact .head _
  · rw [← hnil, hlist]
    simp

end Json

end JsonDesk
