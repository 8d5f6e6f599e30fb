import JsonDesk.Proofs.Grammar
import Mathlib.Data.List.Nodup

set_option autoImplicit false

namespace JsonDesk

namespace Text

theorem le_trans {a b c : Text} (hab : le a b) (hbc : le b c) : le a c := by
  induction a generalizing b c with
  | nil => rfl
  | cons x a ih =>
    cases b with
    | nil => simp [le] at hab
    | cons y b =>
      cases c with
      | nil => simp [le] at hbc
      | cons z c =>
        simp only [le] at hab hbc ⊢
        split at hab
        · next hxy =>
          split at hbc
          · next hyz => simpa [hxy, hyz] using ih hab hbc
          · next hyz => simpa [hxy, hyz] using hbc
        · next hxy =>
          simp only [decide_eq_true_eq] at hab
          split at hbc
          · next hyz => simp [← hyz, hab, hxy]
          · simp only [decide_eq_true_eq] at hbc
            have h := Nat.lt_trans hab hbc
            simp [h, Nat.ne_of_lt h]

theorem le_antisymm {a b : Text} (hab : le a b) (hba : le b a) : a = b := by
  induction a generalizing b with
  | nil =>
    cases b with
    | nil => rfl
    | cons y b => simp [le] at hba
  | cons x a ih =>
    cases b with
    | nil => simp [le] at hab
    | cons y b =>
      by_cases h : x.val = y.val
      · have hxy : x = y := by cases x; cases y; simp_all
        simp only [le, h, if_true] at hab hba
        rw [hxy, ih hab hba]
      · simp only [le, h, if_false, Ne.symm h, decide_eq_true_eq] at hab hba
        omega

end Text

namespace Members

theorem mem_firstNames {n : Text} {ns : List Text} : n ∈ firstNames ns ↔ n ∈ ns := by
  induction ns with
  | nil => simp [firstNames]
  | cons m ns ih => by_cases h : n = m <;> simp [firstNames, ih, h]

theorem firstNames_nodup (ns : List Text) : (firstNames ns).Nodup := by
  induction ns with
  | nil => exact List.nodup_nil
  | cons n ns ih =>
    rw [firstNames, List.nodup_cons]
    exact ⟨by simp, ih.filter _⟩

theorem firstNames_of_nodup {ns : List Text} (h : ns.Nodup) : firstNames ns = ns := by
  induction ns with
  | nil => rfl
  | cons n ns ih =>
    obtain ⟨hn, hns⟩ := List.nodup_cons.mp h
    rw [firstNames, ih hns, List.filter_eq_self.mpr]
    intro m hm
    simpa using fun h : m = n => hn (h ▸ hm)

@[simp] theorem names_cons (m : Text × Json) (ms : Members) :
    names (m :: ms) = m.1 :: names ms := rfl

theorem get?_append (as bs : Members) (n : Text) :
    get? (as ++ bs) n = (get? as n).or (get? bs n) := by
  induction as with
  | nil => simp [get?]
  | cons m as ih =>
    by_cases h : m.1 = n
    · simp [get?, h]
    · simp [get?, h, ih]

theorem get?_of_mem {ms : Members} {m : Text × Json} (h : ms.names.Nodup) (hm : m ∈ ms) :
    get? ms m.1 = some m.2 := by
  induction ms with
  | nil => simp at hm
  | cons k ms ih =>
    obtain ⟨hk, hms⟩ := List.nodup_cons.mp h
    rcases List.mem_cons.mp hm with rfl | hm
    · simp [get?]
    · have hne : k.1 ≠ m.1 := fun he => hk (List.mem_map.mpr ⟨m, hm, he.symm⟩)
      simp [get?, hne, ih hms hm]

theorem mem_of_get? {ms : Members} {n : Text} {v : Json} (h : get? ms n = some v) :
    (n, v) ∈ ms := by
  induction ms with
  | nil => cases h
  | cons m ms ih =>
    by_cases hm : m.1 = n
    · simp only [get?, hm, if_true, Option.some.injEq] at h
      subst hm h
      exact List.mem_cons_self
    · simp only [get?, hm, if_false] at h
      exact List.mem_cons_of_mem _ (ih h)

theorem exists_get? {ms : Members} {n : Text} (h : n ∈ ms.names) : ∃ v, get? ms n = some v := by
  induction ms with
  | nil => simp [names] at h
  | cons m ms ih =>
    by_cases hm : m.1 = n
    · exact ⟨m.2, by simp [get?, hm]⟩
    · rcases List.mem_cons.mp h with rfl | h
      · exact absurd rfl hm
      · simpa [get?, hm] using ih h

theorem map_get?_names {ms : Members} (h : ms.names.Nodup) :
    (ms.names.map fun n => (n, (get? ms n).getD .null)) = ms := by
  rw [names, List.map_map]
  conv_rhs => rw [← List.map_id ms]
  apply List.map_congr_left
  intro m hm
  simp [get?_of_mem h hm]

theorem settled_of_nodup {ms : Members} (h : ms.names.Nodup) : ms.settled = ms := by
  have hr : (names ms.reverse).Nodup := by
    rw [names, List.map_reverse, List.nodup_reverse]
    exact h
  have hget : ∀ n ∈ ms.names, get? ms.reverse n = get? ms n := by
    intro n hn
    obtain ⟨m, hm, rfl⟩ := List.mem_map.mp hn
    rw [get?_of_mem hr (List.mem_reverse.mpr hm), get?_of_mem h hm]
  rw [settled, firstNames_of_nodup h]
  conv_rhs => rw [← map_get?_names h]
  apply List.map_congr_left
  intro n hn
  rw [hget n hn]

@[simp] theorem names_settled (ms : Members) : ms.settled.names = firstNames ms.names := by
  simp [settled, names, Function.comp_def]

theorem nodup_names_settled (ms : Members) : ms.settled.names.Nodup := by
  rw [names_settled]
  exact firstNames_nodup _

theorem mem_of_mem_settled {m : Text × Json} {ms : Members} (h : m ∈ ms.settled) : m ∈ ms := by
  obtain ⟨n, hn, rfl⟩ := List.mem_map.mp h
  have hr : n ∈ names ms.reverse := by
    rw [mem_firstNames] at hn
    simpa [names] using hn
  obtain ⟨v, hv⟩ := exists_get? hr
  rw [hv]
  exact List.mem_reverse.mp (mem_of_get? hv)

/-! ### Collecting members one by one -/

theorem names_insert (ms : Members) (n : Text) (v : Json) :
    (ms.insert n v).names = if n ∈ ms.names then ms.names else ms.names ++ [n] := by
  induction ms with
  | nil => rfl
  | cons m ms ih =>
    by_cases h : m.1 = n
    · simp [insert, h]
    · simp only [insert, h, if_false, names_cons, ih, List.mem_cons, Ne.symm h, false_or]
      split <;> simp

theorem names_foldl_insert (ms done : Members) :
    (ms.foldl (fun done m => done.insert m.1 m.2) done).names =
      done.names ++ (firstNames ms.names).filter fun n => n ∉ done.names := by
  induction ms generalizing done with
  | nil => simp [firstNames, names]
  | cons m ms ih =>
    rw [List.foldl_cons, ih, names_insert, names_cons, firstNames]
    split
    · next h =>
      simp only [List.filter_cons, h, not_true, decide_false, List.filter_filter]
      congr 2
      funext n
      by_cases hn : n = m.1 <;> simp [hn, h]
    · next h =>
      simp only [List.filter_cons, h, not_false_iff, decide_true, List.filter_filter, if_true]
      rw [List.append_assoc, List.singleton_append]
      congr 3
      funext n
      by_cases hn : n = m.1 <;> simp [hn, h]

theorem get?_foldl_insert (ms done : Members) (n : Text) :
    get? (ms.foldl (fun done m => done.insert m.1 m.2) done) n =
      (get? ms.reverse n).or (get? done n) := by
  induction ms generalizing done with
  | nil => simp [get?]
  | cons m ms ih =>
    rw [List.foldl_cons, ih, get?_insert, List.reverse_cons, get?_append]
    by_cases h : m.1 = n <;> cases get? ms.reverse n <;> simp [get?, h]

theorem nodup_of_strictlySorted {ns : List Text} (hs : strictlySorted ns)
    (hle : ns.Pairwise fun a b => Text.le a b) : ns.Nodup := by
  induction ns with
  | nil => exact List.nodup_nil
  | cons a ns ih =>
    obtain ⟨hhead, htail⟩ := List.pairwise_cons.mp hle
    cases ns with
    | nil => simp
    | cons b ns =>
      simp only [strictlySorted, Bool.and_eq_true, bne_iff_ne, ne_eq] at hs
      refine List.nodup_cons.mpr ⟨fun ha => ?_, ih hs.2 htail⟩
      rcases List.mem_cons.mp ha with rfl | ha
      · exact hs.1 rfl
      · have hba := (List.pairwise_cons.mp htail).1 a ha
        exact hs.1 (Text.le_antisymm (hhead b (by simp)) hba)

theorem ofList_eq_settled (ms : Members) : ofList ms = ms.settled := by
  unfold ofList
  split
  · next h =>
    have hsorted : (ms.names.mergeSort Text.le).Pairwise fun a b => Text.le a b :=
      List.pairwise_mergeSort (fun a b c => @Text.le_trans a b c) Text.le_total ms.names
    have hnodup := (List.mergeSort_perm ms.names Text.le).nodup (nodup_of_strictlySorted h hsorted)
    rw [settled_of_nodup hnodup]
  · have hnames : names (ms.foldl (fun done m => Members.insert done m.1 m.2) []) =
        firstNames ms.names := by
      simpa [names] using names_foldl_insert ms []
    have hnodup : (names (ms.foldl (fun done m => Members.insert done m.1 m.2) [])).Nodup := by
      rw [hnames]
      exact firstNames_nodup _
    rw [← map_get?_names hnodup, settled, hnames]
    apply List.map_congr_left
    intro n _
    simp [get?_foldl_insert, get?]

end Members

end JsonDesk
