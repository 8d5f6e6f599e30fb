import JsonDesk.Proofs.Serializing

set_option autoImplicit false

namespace JsonDesk

namespace Json

/-- Equal up to the order of members, in the value and everywhere inside it. -/
inductive Reordered : Json → Json → Prop
  | same (v : Json) : Reordered v v
  | items {ps : List (Json × Json)} :
    (∀ p ∈ ps, Reordered p.1 p.2) → Reordered (.arr (ps.map (·.1))) (.arr (ps.map (·.2)))
  | members {ps : List (Text × Json × Json)} {ms ks : Members} :
    (∀ p ∈ ps, Reordered p.2.1 p.2.2) → ms.Perm (ps.map fun p => (p.1, p.2.1)) →
      ks.Perm (ps.map fun p => (p.1, p.2.2)) → Reordered (.obj ms) (.obj ks)

theorem Reordered.symm {v w : Json} (h : Reordered v w) : Reordered w v := by
  induction h with
  | same v => exact .same v
  | @items ps _ ih =>
    have hswap : ∀ p ∈ ps.map Prod.swap, Reordered p.1 p.2 := by
      intro p hp
      obtain ⟨q, hq, rfl⟩ := List.mem_map.mp hp
      exact ih q hq
    simpa [Function.comp_def] using Reordered.items hswap
  | @members ps ms ks _ hms hks ih =>
    have hswap : ∀ p ∈ ps.map fun p => (p.1, p.2.2, p.2.1), Reordered p.2.1 p.2.2 := by
      intro p hp
      obtain ⟨q, hq, rfl⟩ := List.mem_map.mp hp
      exact ih q hq
    exact .members hswap (by simpa [Function.comp_def] using hks)
      (by simpa [Function.comp_def] using hms)

theorem Reordered.inside {u v w : Json} (h : Reordered v w) (hu : Inside u v) :
    ∃ u', Inside u' w ∧ Reordered u u' := by
  induction h with
  | same v => exact ⟨u, hu, .same u⟩
  | @items ps hps ih =>
    rcases inside_arr.mp hu with rfl | ⟨v, hv, hin⟩
    · exact ⟨_, .self, .items hps⟩
    · obtain ⟨p, hp, rfl⟩ := List.mem_map.mp hv
      obtain ⟨u', hu', hr⟩ := ih p hp hin
      exact ⟨u', .item (List.mem_map_of_mem hp) hu', hr⟩
  | @members ps ms ks hps hms hks ih =>
    rcases inside_obj.mp hu with rfl | ⟨m, hm, hin⟩
    · exact ⟨_, .self, .members hps hms hks⟩
    · obtain ⟨p, hp, rfl⟩ := List.mem_map.mp (hms.mem_iff.mp hm)
      obtain ⟨u', hu', hr⟩ := ih p hp hin
      have hk := hks.mem_iff.mpr (List.mem_map_of_mem (f := fun p => (p.1, p.2.2)) hp)
      exact ⟨u', .member hk hu', hr⟩

theorem Reordered.names {ms : Members} {w : Json} (h : Reordered (.obj ms) w) :
    ∃ ks, w = .obj ks ∧ (Members.names ms).Perm (Members.names ks) := by
  cases h with
  | same => exact ⟨ms, rfl, .refl _⟩
  | @members ps _ ks _ hms hks =>
    have hms' := hms.map (·.1)
    have hks' := hks.map (·.1)
    simp only [List.map_map, Function.comp_def] at hms' hks'
    exact ⟨ks, rfl, hms'.trans hks'.symm⟩

theorem Distinct.reordered {v w : Json} (hv : Distinct v) (h : Reordered v w) : Distinct w := by
  intro ks hks
  obtain ⟨u, hu, hr⟩ := h.symm.inside hks
  obtain ⟨ms, rfl, hp⟩ := hr.names
  exact hp.nodup_iff.mpr (hv ms hu)

theorem Texts.reordered {P : Text → Prop} {v w : Json} (hv : Texts P v) (h : Reordered v w) :
    Texts P w := by
  constructor
  · intro t ht
    obtain ⟨u, hu, hr⟩ := h.symm.inside ht
    cases hr
    exact hv.1 t hu
  · intro ks hks n hn
    obtain ⟨u, hu, hr⟩ := h.symm.inside hks
    obtain ⟨ms, rfl, hp⟩ := hr.names
    exact hv.2 ms hu n (hp.mem_iff.mp hn)

theorem nonFinite?_reordered {v w : Json} (h : Reordered v w) :
    v.nonFinite? = none ↔ w.nonFinite? = none := by
  have imp {v w : Json} (h : Reordered v w) (hv : v.nonFinite? = none) : w.nonFinite? = none := by
    rw [nonFinite?_eq_none] at hv ⊢
    intro d hd
    obtain ⟨u, hu, hr⟩ := h.symm.inside hd
    cases hr
    exact hv d hu
  exact ⟨imp h, imp h.symm⟩

theorem Denotable.reordered {v w : Json} (hv : Denotable v) (h : Reordered v w) :
    Denotable w := by
  constructor
  · intro i hi
    obtain ⟨u, hu, hr⟩ := h.symm.inside hi
    cases hr
    exact hv.1 i hu
  · intro d hd
    obtain ⟨u, hu, hr⟩ := h.symm.inside hd
    cases hr
    exact hv.2 d hu

theorem itemLevels_le {vs : List Json} {n : Nat} (h : ∀ v ∈ vs, v.levels ≤ n) :
    itemLevels vs ≤ n := by
  induction vs with
  | nil => exact Nat.zero_le n
  | cons v vs ih =>
    rw [itemLevels]
    exact Nat.max_le.mpr ⟨h v (by simp), ih fun u hu => h u (by simp [hu])⟩

theorem memberLevels_le {ms : Members} {n : Nat} (h : ∀ m ∈ ms, m.2.levels ≤ n) :
    memberLevels ms ≤ n := by
  induction ms with
  | nil => exact Nat.zero_le n
  | cons m ms ih =>
    rw [memberLevels]
    exact Nat.max_le.mpr ⟨h m (by simp), ih fun k hk => h k (by simp [hk])⟩

theorem Reordered.levels_le {v w : Json} (h : Reordered v w) : v.levels ≤ w.levels := by
  induction h with
  | same v => exact Nat.le_refl _
  | @items ps _ ih =>
    refine Nat.succ_le_succ (itemLevels_le fun v hv => ?_)
    obtain ⟨p, hp, rfl⟩ := List.mem_map.mp hv
    exact Nat.le_trans (ih p hp) (levels_le_itemLevels (List.mem_map_of_mem hp))
  | @members ps ms ks _ hms hks ih =>
    refine Nat.succ_le_succ (memberLevels_le fun m hm => ?_)
    obtain ⟨p, hp, rfl⟩ := List.mem_map.mp (hms.mem_iff.mp hm)
    have hk := hks.mem_iff.mpr (List.mem_map_of_mem (f := fun p => (p.1, p.2.2)) hp)
    exact Nat.le_trans (ih p hp) (levels_le_memberLevels hk)

/-! ### Sorting names -/

theorem sortItems_eq (done vs : List Json) :
    sortItems done vs = done.reverse ++ vs.map sortNames := by
  induction vs generalizing done with
  | nil => simp [sortItems]
  | cons v vs ih => simp [sortItems, ih]

theorem sortMembers_eq (done ms : Members) :
    sortMembers done ms = done.reverse ++ ms.map fun m => (m.1, sortNames m.2) := by
  induction ms generalizing done with
  | nil => simp [sortMembers]
  | cons m ms ih => simp [sortMembers, ih]

theorem reordered_sortNames (v : Json) : Reordered v.sortNames v := by
  induction v using tree with
  | null => exact .same _
  | bool b => exact .same _
  | int i => exact .same _
  | float d => exact .same _
  | str t => exact .same _
  | arr vs ih =>
    have hps : ∀ p ∈ vs.map fun v => (sortNames v, v), Reordered p.1 p.2 := by
      intro p hp
      obtain ⟨v, hv, rfl⟩ := List.mem_map.mp hp
      exact ih v hv
    rw [sortNames, sortItems_eq]
    simpa [Function.comp_def] using Reordered.items hps
  | obj ms ih =>
    have hps : ∀ p ∈ ms.map fun m => (m.1, sortNames m.2, m.2), Reordered p.2.1 p.2.2 := by
      intro p hp
      obtain ⟨m, hm, rfl⟩ := List.mem_map.mp hp
      exact ih m hm
    rw [sortNames, sortMembers_eq]
    refine .members hps ?_ ?_
    · simpa [Function.comp_def] using List.mergeSort_perm _ _
    · simp [Function.comp_def]

end Json

end JsonDesk
