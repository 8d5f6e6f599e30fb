import JsonDesk.Proofs.Layouts
import Mathlib.Data.List.Permutation

/-!
Sorting as a canonical form.  Equality up to the order of members is an equivalence, and two values
are equivalent just if they are the same once their names are sorted; since what is written can be
read again, the same goes for the texts of sorted documents.
-/

set_option autoImplicit false

namespace JsonDesk

namespace Text

/-- The order of texts by their first different code point. -/
def Before (s t : Text) : Prop := s.map CodePoint.val < t.map CodePoint.val

theorem before_of_le {s t : Text} (h : le s t = true) (hne : s ≠ t) : Before s t := by
  induction s generalizing t with
  | nil =>
    cases t with
    | nil => exact absurd rfl hne
    | cons d t => exact List.nil_lt_cons _ _
  | cons c s ih =>
    cases t with
    | nil => simp [le] at h
    | cons d t =>
      rw [Before, List.map_cons, List.map_cons, List.cons_lt_cons_iff]
      by_cases hcd : c.val = d.val
      · have hpoint : c = d := by cases c; cases d; simp_all
        subst hpoint
        rw [le, if_pos rfl] at h
        exact .inr ⟨rfl, ih h (by simpa using hne)⟩
      · simp only [le, hcd, if_false, decide_eq_true_eq] at h
        exact .inl h

end Text

namespace Json

/-! ### An equivalence -/

theorem Reordered.of_arr {vs : List Json} {w : Json} (h : Reordered (.arr vs) w) :
    ∃ ps : List (Json × Json), (∀ p ∈ ps, Reordered p.1 p.2) ∧ vs = ps.map (·.1) ∧
      w = .arr (ps.map (·.2)) := by
  generalize hv : Json.arr vs = v at h
  cases h with
  | same =>
    subst hv
    refine ⟨vs.map fun v => (v, v), fun p hp => ?_, by simp [Function.comp_def],
      by simp [Function.comp_def]⟩
    obtain ⟨v, -, rfl⟩ := List.mem_map.mp hp
    exact .same v
  | @items ps hps =>
    cases hv
    exact ⟨ps, hps, rfl, rfl⟩
  | members => cases hv

theorem Reordered.of_obj {ms : Members} {w : Json} (h : Reordered (.obj ms) w) :
    ∃ (ps : List (Text × Json × Json)) (ks : Members), (∀ p ∈ ps, Reordered p.2.1 p.2.2) ∧
      ms.Perm (ps.map fun p => (p.1, p.2.1)) ∧ ks.Perm (ps.map fun p => (p.1, p.2.2)) ∧
      w = .obj ks := by
  generalize hv : Json.obj ms = v at h
  cases h with
  | same =>
    subst hv
    refine ⟨ms.map fun m => (m.1, m.2, m.2), ms, fun p hp => ?_, by simp [Function.comp_def],
      by simp [Function.comp_def], rfl⟩
    obtain ⟨m, -, rfl⟩ := List.mem_map.mp hp
    exact .same m.2
  | items => cases hv
  | @members ps _ ks hps hms hks =>
    cases hv
    exact ⟨ps, ks, hps, hms, hks, rfl⟩

section
variable {α β γ : Type} {f : α → γ} {g : β → γ}

theorem exists_zip_of_map_eq {as : List α} {bs : List β} (h : as.map f = bs.map g) :
    ∃ rs : List (α × β), as = rs.map (·.1) ∧ bs = rs.map (·.2) ∧ ∀ r ∈ rs, f r.1 = g r.2 := by
  induction as generalizing bs with
  | nil => exact ⟨[], rfl, by simpa [eq_comm] using h, by simp⟩
  | cons a as ih =>
    cases bs with
    | nil => simp at h
    | cons b bs =>
      simp only [List.map_cons, List.cons.injEq] at h
      obtain ⟨rs, rfl, rfl, hrs⟩ := ih h.2
      exact ⟨(a, b) :: rs, by simp, by simp, by simpa [h.1] using hrs⟩

theorem exists_zip_of_map_perm {as : List α} {bs : List β} (h : (as.map f).Perm (bs.map g)) :
    ∃ rs : List (α × β), as = rs.map (·.1) ∧ (rs.map (·.2)).Perm bs ∧
      ∀ r ∈ rs, f r.1 = g r.2 := by
  have hcomp := congrFun (congrFun (List.eq_map_comp_perm g) (as.map f)) bs
  obtain ⟨cs, heq, hperm⟩ := hcomp.mpr h
  obtain ⟨rs, has, rfl, hrs⟩ := exists_zip_of_map_eq heq
  exact ⟨rs, has, hperm, hrs⟩

end

theorem Reordered.trans {u v w : Json} (huv : Reordered u v) (hvw : Reordered v w) :
    Reordered u w := by
  induction huv generalizing w with
  | same => exact hvw
  | @items ps _ ih =>
    obtain ⟨qs, hqs, hmid, rfl⟩ := hvw.of_arr
    obtain ⟨rs, rfl, rfl, hrs⟩ := exists_zip_of_map_eq hmid
    have hpairs : ∀ p ∈ rs.map fun r => (r.1.1, r.2.2), Reordered p.1 p.2 := by
      intro p hp
      obtain ⟨r, hr, rfl⟩ := List.mem_map.mp hp
      refine ih r.1 (List.mem_map_of_mem hr) ?_
      rw [hrs r hr]
      exact hqs r.2 (List.mem_map_of_mem hr)
    simpa [Function.comp_def] using Reordered.items hpairs
  | @members ps ms ks _ hms hks ih =>
    obtain ⟨qs, ls, hqs, hks', hls, rfl⟩ := hvw.of_obj
    obtain ⟨rs, rfl, hperm, hrs⟩ := exists_zip_of_map_perm (hks.symm.trans hks')
    have hpairs : ∀ p ∈ rs.map fun r => (r.1.1, r.1.2.1, r.2.2.2), Reordered p.2.1 p.2.2 := by
      intro p hp
      obtain ⟨r, hr, rfl⟩ := List.mem_map.mp hp
      obtain ⟨-, hvalue⟩ := Prod.mk.inj (hrs r hr)
      refine ih r.1 (List.mem_map_of_mem hr) ?_
      rw [hvalue]
      exact hqs r.2 (hperm.mem_iff.mp (List.mem_map_of_mem hr))
    refine .members hpairs (by simpa [Function.comp_def] using hms) ?_
    have hnames : (rs.map (·.2)).map (fun q => (q.1, q.2.2)) =
        rs.map fun r => (r.1.1, r.2.2.2) := by
      rw [List.map_map]
      refine List.map_congr_left fun r hr => ?_
      obtain ⟨hname, -⟩ := Prod.mk.inj (hrs r hr)
      simp [hname]
    rw [List.map_map, Function.comp_def, ← hnames]
    exact hls.trans (hperm.map _).symm

/-! ### Sorting decides it -/

theorem Reordered.sortNames_eq {v w : Json} (h : Reordered v w) (hv : Distinct v) :
    v.sortNames = w.sortNames := by
  induction h with
  | same => rfl
  | @items ps _ ih =>
    simp only [sortNames, sortItems_eq, List.map_map, List.reverse_nil, List.nil_append]
    congr 1
    refine List.map_congr_left fun p hp => ?_
    exact ih p hp (hv.inside (.item (List.mem_map_of_mem hp) .self))
  | @members ps ms ks hps hms hks ih =>
    have hsorted : (ps.map fun p => (p.1, p.2.1.sortNames)) =
        ps.map fun p => (p.1, p.2.2.sortNames) := by
      refine List.map_congr_left fun p hp => ?_
      have hin := hms.mem_iff.mpr (List.mem_map_of_mem (f := fun p => (p.1, p.2.1)) hp)
      rw [ih p hp (hv.inside (.member hin .self))]
    have hperm : (ms.map fun m => (m.1, m.2.sortNames)).Perm
        (ks.map fun m => (m.1, m.2.sortNames)) := by
      have hleft := hms.map fun m : Text × Json => (m.1, m.2.sortNames)
      have hright := hks.map fun m : Text × Json => (m.1, m.2.sortNames)
      rw [List.map_map, Function.comp_def] at hleft hright
      exact (hsorted ▸ hleft).trans hright.symm
    simp only [sortNames, sortMembers_eq, List.reverse_nil, List.nil_append]
    congr 1
    have hnodup : ((ms.map fun m => (m.1, m.2.sortNames)).map (·.1)).Nodup := by
      simpa [Function.comp_def, Members.names] using hv ms .self
    -- two sorted lists of the same members are equal, because no name is there twice
    refine List.Perm.eq_of_pairwise ?_ (le_of_sorted _) (le_of_sorted _)
      ((List.mergeSort_perm _ _).trans (hperm.trans (List.mergeSort_perm _ _).symm))
    intro m k hm hk hmk hkm
    have hm' := (List.mergeSort_perm _ _).mem_iff.mp hm
    have hk' := hperm.mem_iff.mpr ((List.mergeSort_perm _ _).mem_iff.mp hk)
    exact List.inj_on_of_nodup_map hnodup hm' hk' (Text.le_antisymm hmk hkm)

theorem sortNames_eq_iff {v w : Json} (hv : Distinct v) :
    v.sortNames = w.sortNames ↔ Reordered v w := by
  constructor
  · intro h
    exact (reordered_sortNames v).symm.trans (h ▸ reordered_sortNames w)
  · exact fun h => h.sortNames_eq hv

theorem before_of_sorted {ms : Members} (h : (Members.names ms).Nodup) :
    (Members.names (ms.mergeSort fun m n => Text.le m.1 n.1)).Pairwise Text.Before := by
  have hnodup := ((List.mergeSort_perm ms fun m n => Text.le m.1 n.1).map Prod.fst).nodup_iff.mpr h
  rw [Members.names, List.pairwise_map]
  rw [List.Nodup, List.pairwise_map] at hnodup
  exact ((le_of_sorted ms).and hnodup).imp fun {m k} hmk => Text.before_of_le hmk.1 hmk.2

theorem before_of_sortNames {v : Json} (hv : Distinct v) {ms : Members}
    (h : Inside (.obj ms) v.sortNames) : (Members.names ms).Pairwise Text.Before := by
  induction v using tree with
  | arr vs ih =>
    simp only [sortNames, sortItems_eq, List.reverse_nil, List.nil_append, inside_arr,
      reduceCtorEq, false_or] at h
    obtain ⟨w, hw, hin⟩ := h
    obtain ⟨v, hmem, rfl⟩ := List.mem_map.mp hw
    exact ih v hmem (hv.inside (.item hmem .self)) hin
  | obj ks ih =>
    simp only [sortNames, sortMembers_eq, List.reverse_nil, List.nil_append, inside_obj,
      Json.obj.injEq] at h
    cases h with
    | inl h =>
      subst h
      refine before_of_sorted ?_
      simpa [Members.names, Function.comp_def] using hv ks .self
    | inr h =>
      obtain ⟨k, hk, hin⟩ := h
      obtain ⟨m, hm, rfl⟩ := List.mem_map.mp ((List.mergeSort_perm _ _).mem_iff.mp hk)
      exact ih m hm (hv.inside (.member hm .self)) hin
  | _ => simp [sortNames] at h

end Json

/-! ### Sorted documents -/

/-- A document that sorting writes anew: its value is not null, its numbers are finite, and nothing
in it has to be escaped. -/
structure Sortable [StackRoom] (t : Text) (v : Json) : Prop where
  valid : validate t = .valid v
  shallow : t.nesting ≤ 400
  clean : ∀ c ∈ t, c.isSurrogate = false
  present : v ≠ .null
  finite : ∀ d, Json.Inside (.float d) v → d.isFinite = true

namespace Sortable
open Json

variable [StackRoom] {t u s : Text} {v w : Json} {n : Int}

theorem distinct (h : Sortable t v) : Distinct v := by
  obtain ⟨x, hx⟩ := Verdict.exists_spelling h.valid h.shallow
  exact hx.distinct

theorem sortKeys_eq (h : Sortable t v) (n : Int) :
    t.sortKeys n = v.sortNames.serialize (some n) :=
  Reshape.reshape_of_finite .sortNames (some n) h.valid h.present (nonFinite?_eq_none.mpr h.finite)

theorem validate_sortKeys (h : Sortable t v) (hs : t.sortKeys n = .ok s) :
    validate s = .valid v.sortNames :=
  Reshape.validate_reshape h.clean h.shallow h.valid (nonFinite?_eq_none.mpr h.finite) hs

theorem sortKeys_ok_iff (h : Sortable t v) :
    (∃ s, t.sortKeys n = .ok s) ↔ n < Layout.indexLimit ∨ ∃ x, v = .str x := by
  rw [Text.sortKeys, Reshape.reshape_ok_iff _ h.shallow, h.valid]
  simp [Spreadable, h.present]

theorem sortKeys_of_le (h : Sortable t v) (hn : Layout.indexLimit ≤ n)
    (hstr : ∀ x, v ≠ .str x) :
    t.sortKeys n = .error .notIndexSized := by
  have hstr' : ∀ x, v.sortNames ≠ .str x := Reshape.sortNames.apply_ne_str hstr
  rw [h.sortKeys_eq]
  refine serialize_of_some ?_
  rw [obstacle?_of_not_str _ hstr', Layout.obstacle?_ofIndent_of_le hn]
  rfl

end Sortable

/-- Two documents are sorted to the same text just if their values are equal up to the order of
members, unless neither is sorted at all because its indent cannot be made.  In the value of a
sorted document every object has its names in ascending order. -/
theorem Text.sortKeys_canonical [StackRoom] {t u : Text} {v w : Json} (ht : Sortable t v)
    (hu : Sortable u w) (n : Int) :
    (n < Layout.indexLimit ∨ (∃ x, v = .str x) ∨ (∃ x, w = .str x) →
      (t.sortKeys n = u.sortKeys n ↔ Json.Reordered v w)) ∧
    ((∃ s, t.sortKeys n = .ok s) ↔ n < Layout.indexLimit ∨ ∃ x, v = .str x) ∧
    (∀ s, t.sortKeys n = .ok s → ∃ x, validate s = .valid x ∧ Json.Reordered x v ∧
      ∀ ms, Json.Inside (.obj ms) x → (Members.names ms).Pairwise Text.Before) ∧
    (Layout.indexLimit ≤ n → (∀ x, v ≠ .str x) → t.sortKeys n =
      .error .notIndexSized) := by
  refine ⟨fun hn => ⟨fun heq => ?_, fun h => ?_⟩, ht.sortKeys_ok_iff, fun s hs => ?_,
    ht.sortKeys_of_le⟩
  · -- one of the two gives a text, which then is the text of both
    have hsome : ∃ s, t.sortKeys n = .ok s := by
      rcases hn with hn | hv | hw
      · exact ht.sortKeys_ok_iff.mpr (.inl hn)
      · exact ht.sortKeys_ok_iff.mpr (.inr hv)
      · exact heq ▸ hu.sortKeys_ok_iff.mpr (.inr hw)
    obtain ⟨s, hs⟩ := hsome
    have hv := ht.validate_sortKeys hs
    have hw := hu.validate_sortKeys (heq ▸ hs)
    exact (Json.sortNames_eq_iff ht.distinct).mp (Verdict.valid.inj (hv.symm.trans hw))
  · rw [ht.sortKeys_eq, hu.sortKeys_eq, h.sortNames_eq ht.distinct]
  · exact ⟨v.sortNames, ht.validate_sortKeys hs, Json.reordered_sortNames v,
      fun ms hms => Json.before_of_sortNames ht.distinct hms⟩

theorem Text.sortKeys_canonical_objects :
    Sortable "\x7b\"b\":[],\"a\":true\x7d" (.obj [("b", .arr []), ("a", .bool true)]) ∧
      Sortable "\x7b\"a\":true, \"b\":[]\x7d" (.obj [("a", .bool true), ("b", .arr [])]) ∧
      Text.sortKeys "\x7b\"b\":[],\"a\":true\x7d" 4 =
        Text.sortKeys "\x7b\"a\":true, \"b\":[]\x7d" 4 := by
  have ht : Sortable "\x7b\"b\":[],\"a\":true\x7d" (.obj [("b", .arr []), ("a", .bool true)]) :=
    ⟨by cbv, by decide, by decide, by simp, by simp⟩
  have hu : Sortable "\x7b\"a\":true, \"b\":[]\x7d" (.obj [("a", .bool true), ("b", .arr [])]) :=
    ⟨by cbv, by decide, by decide, by simp, by simp⟩
  let ps : List (Text × Json × Json) := [("b", .arr [], .arr []), ("a", .bool true, .bool true)]
  have hps : ∀ p ∈ ps, Json.Reordered p.2.1 p.2.2 := by simp [ps, Json.Reordered.same]
  have hr : Json.Reordered (.obj [("b", .arr []), ("a", .bool true)])
      (.obj [("a", .bool true), ("b", .arr [])]) :=
    .members hps (.refl _) (.swap _ _ _)
  exact ⟨ht, hu, ((sortKeys_canonical ht hu 4).1 (.inl (by simp [Layout.indexLimit]))).mpr hr⟩

/-- Documents that are not sorted, for want of an indent, fail alike whatever their values are. -/
theorem Text.not_sortKeys_canonical_every_indent :
    ¬ ∀ (t u : Text) (v w : Json) (n : Int), Sortable t v → Sortable u w →
      (t.sortKeys n = u.sortKeys n ↔ Json.Reordered v w) := by
  intro h
  have ht : Sortable "[]" (.arr []) := ⟨by cbv, by decide, by decide, by simp, by simp⟩
  have hu : Sortable "\x7b\x7d" (.obj []) := ⟨by cbv, by decide, by decide, by simp, by simp⟩
  have hfails : Text.sortKeys "[]" 9223372036854775808 =
      Text.sortKeys "\x7b\x7d" 9223372036854775808 := by
    rw [ht.sortKeys_of_le (by decide) (by simp), hu.sortKeys_of_le (by decide) (by simp)]
  obtain ⟨ps, -, -, hobj⟩ := ((h _ _ _ _ _ ht hu).mp hfails).of_arr
  cases hobj

end JsonDesk
