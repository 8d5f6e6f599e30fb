import JsonDesk.Proofs.Reordering
import Mathlib.Data.List.Induction

set_option autoImplicit false

namespace JsonDesk

namespace Numeral

theorem digit_lt (c : CodePoint) : c.digit?.getD 0 < 10 := by
  cases h : c.digit? with
  | none => decide
  | some d =>
    simp only [CodePoint.digit?, Option.ite_none_right_eq_some, Option.some.injEq] at h
    rw [Option.getD_some]
    omega

theorem magnitude_lt (t : Text) : magnitude t < 10 ^ t.length := by
  induction t using List.reverseRecOn with
  | nil => decide
  | append_singleton t c ih =>
    have hc := digit_lt c
    rw [magnitude_append_digit, List.length_append, List.length_singleton, Nat.pow_succ]
    omega

theorem natAbs_toInt (m : Numeral) : m.toInt.natAbs = magnitude m.whole := by
  rw [toInt]
  split <;> omega

theorem denoted?_cases {how : Reading} {m : Numeral} {v : Json} (h : m.denoted? how = some v) :
    (∃ i : Int, v = .int i ∧ i.natAbs < 10 ^ maxDigits) ∨ ∃ d, v = .float d := by
  simp only [denoted?] at h
  split at h
  · split at h
    · next hlen =>
      cases h
      have hlt := Nat.lt_of_lt_of_le (magnitude_lt m.whole) (Nat.pow_le_pow_right (by decide) hlen)
      exact .inl ⟨_, rfl, by rwa [natAbs_toInt]⟩
    · split at h <;> cases h
      exact .inr ⟨_, rfl⟩
  · cases h
    exact .inr ⟨_, rfl⟩

end Numeral

namespace Grammar
open Json

variable {how : Reading} {n : Nat} {w : Text} {u v : Json}

theorem Value.inside (h : Value how n w v) (hu : Inside u v) :
    ∃ k x, k ≤ n ∧ Value how k x u := by
  have whole {n : Nat} {w : Text} {v : Json} (h : Value how n w v) (hself : u = v) :
      ∃ k x, k ≤ n ∧ Value how k x u := ⟨n, w, Nat.le_refl n, hself ▸ h⟩
  induction h with
  | null => exact whole .null (inside_null.mp hu)
  | yes => exact whole .yes (inside_bool.mp hu)
  | no => exact whole .no (inside_bool.mp hu)
  | @constant n c hc =>
    have hself : u = c.value := by
      cases c <;> exact inside_float.mp hu
    exact whole (.constant hc) hself
  | number ht hm =>
    refine whole (.number ht hm) ?_
    rcases Numeral.denoted?_cases hm with ⟨i, rfl, -⟩ | ⟨d, rfl⟩
    · exact inside_int.mp hu
    · exact inside_float.mp hu
  | string hb => exact whole (.string hb) (inside_str.mp hu)
  | emptyArray hg =>
    rcases inside_arr.mp hu with hself | ⟨v, hv, -⟩
    · exact whole (.emptyArray hg) hself
    · cases hv
  | array hne hs hv ih =>
    rcases inside_arr.mp hu with hself | ⟨v, hmem, hin⟩
    · exact whole (.array hne hs hv) hself
    · obtain ⟨e, he, rfl⟩ := List.mem_map.mp hmem
      obtain ⟨k, x, hk, hx⟩ := ih e he hin
      exact ⟨k, x, Nat.le_succ_of_le hk, hx⟩
  | emptyObject hg =>
    rcases inside_obj.mp hu with hself | ⟨m, hm, -⟩
    · exact whole (.emptyObject hg) hself
    · cases hm
  | object hne hs hb hv ih =>
    rcases inside_obj.mp hu with hself | ⟨m, hm, hin⟩
    · exact whole (.object hne hs hb hv) hself
    · obtain ⟨f, hf, rfl⟩ := List.mem_map.mp (Members.mem_of_mem_settled hm)
      obtain ⟨k, x, hk, hx⟩ := ih f hf hin
      exact ⟨k, x, Nat.le_succ_of_le hk, hx⟩

theorem Value.levels_le (h : Value how n w v) : v.levels ≤ n := by
  induction h with
  | null => exact Nat.zero_le _
  | yes => exact Nat.zero_le _
  | no => exact Nat.zero_le _
  | @constant n c hc => cases c <;> exact Nat.zero_le _
  | number ht hm =>
    rcases Numeral.denoted?_cases hm with ⟨i, rfl, -⟩ | ⟨d, rfl⟩ <;> exact Nat.zero_le _
  | string hb => exact Nat.zero_le _
  | emptyArray hg => exact Nat.succ_le_succ (Nat.zero_le _)
  | array hne hs hv ih =>
    refine Nat.succ_le_succ (itemLevels_le fun v hmem => ?_)
    obtain ⟨e, he, rfl⟩ := List.mem_map.mp hmem
    exact ih e he
  | emptyObject hg => exact Nat.succ_le_succ (Nat.zero_le _)
  | object hne hs hb hv ih =>
    refine Nat.succ_le_succ (memberLevels_le fun m hm => ?_)
    obtain ⟨f, hf, rfl⟩ := List.mem_map.mp (Members.mem_of_mem_settled hm)
    exact ih f hf

theorem Value.names_nodup {ms : Members} (h : Value how n w (.obj ms)) :
    (Members.names ms).Nodup := by
  generalize hv : Json.obj ms = v at h
  cases h with
  | @constant n c _ => cases c <;> cases hv
  | number _ hm => rcases Numeral.denoted?_cases hm with ⟨i, rfl, -⟩ | ⟨d, rfl⟩ <;> cases hv
  | emptyObject =>
    cases hv
    exact List.nodup_nil
  | object =>
    cases hv
    exact Members.nodup_names_settled _
  | _ => cases hv

theorem Value.distinct (h : Value how n w v) : Distinct v := by
  intro ms hms
  obtain ⟨k, x, -, hx⟩ := h.inside hms
  exact hx.names_nodup

theorem Value.natAbs_lt {i : Int} (h : Value how n w (.int i)) : i.natAbs < 10 ^ maxDigits := by
  generalize hv : Json.int i = v at h
  cases h with
  | @constant n c _ => cases c <;> cases hv
  | number _ hm =>
    rcases Numeral.denoted?_cases hm with ⟨j, rfl, hj⟩ | ⟨d, rfl⟩
    · cases hv
      exact hj
    · cases hv
  | _ => cases hv

/-- A spelled value can be written again, unless one of its numbers is not finite. -/
theorem Value.denotable (h : Value how n w v) (hv : v.nonFinite? = none) : Denotable v := by
  refine ⟨fun i hi => ?_, nonFinite?_eq_none.mp hv⟩
  obtain ⟨k, x, -, hx⟩ := h.inside hi
  exact hx.natAbs_lt

end Grammar

end JsonDesk
