import JsonDesk.Proofs.Reordering
import Mathlib.Algebra.Order.BigOperators.Group.List
import Mathlib.Data.List.Perm.Subperm

set_option autoImplicit false

namespace JsonDesk

namespace Json

mutual

def points : Json → Nat
  | str t => t.length
  | arr vs => itemPoints vs
  | obj ms => memberPoints ms
  | _ => 0

def itemPoints : List Json → Nat
  | [] => 0
  | v :: vs => points v + itemPoints vs

def memberPoints : List (Text × Json) → Nat
  | [] => 0
  | (n, v) :: ms => n.length + points v + memberPoints ms

end

theorem itemPoints_eq (vs : List Json) : itemPoints vs = (vs.map points).sum := by
  induction vs with
  | nil => rfl
  | cons v vs ih => rw [itemPoints, ih, List.map_cons, List.sum_cons]

theorem memberPoints_eq (ms : Members) :
    memberPoints ms = (ms.map fun m => m.1.length + points m.2).sum := by
  induction ms with
  | nil => rfl
  | cons m ms ih => rw [memberPoints, ih, List.map_cons, List.sum_cons]

theorem Reordered.points_eq {v w : Json} (h : Reordered v w) : v.points = w.points := by
  induction h with
  | same v => rfl
  | @items ps _ ih =>
    rw [points, points, itemPoints_eq, itemPoints_eq, List.map_map, List.map_map]
    congr 1
    exact List.map_congr_left fun p hp => ih p hp
  | @members ps ms ks _ hms hks ih =>
    rw [points, points, memberPoints_eq, memberPoints_eq, (hms.map _).sum_nat, (hks.map _).sum_nat,
      List.map_map, List.map_map]
    congr 1
    refine List.map_congr_left fun p hp => ?_
    simp [ih p hp]

theorem memberPoints_settled_le (ms : Members) : memberPoints ms.settled ≤ memberPoints ms := by
  have hnodup : ms.settled.Nodup := List.Nodup.of_map _ (Members.nodup_names_settled ms)
  obtain ⟨ks, hperm, hsub⟩ := hnodup.subperm fun m hm => Members.mem_of_mem_settled hm
  rw [memberPoints_eq, memberPoints_eq, ← (hperm.map _).sum_nat]
  exact (hsub.map _).sum_le_sum fun _ _ => Nat.zero_le _

theorem points_joined_le (v : Json) : v.joined.points ≤ v.points := by
  induction v using tree with
  | null => exact Nat.le_refl _
  | bool b => exact Nat.le_refl _
  | int i => exact Nat.le_refl _
  | float d => exact Nat.le_refl _
  | str t => exact Text.length_joined_le t
  | arr vs ih =>
    rw [joined, mapText, points, points, mapTextItems_eq, itemPoints_eq, itemPoints_eq,
      List.map_map]
    exact List.sum_le_sum ih
  | obj ms ih =>
    rw [joined, mapText, points, points]
    refine Nat.le_trans (memberPoints_settled_le _) ?_
    rw [mapTextMembers_eq, memberPoints_eq, memberPoints_eq, List.map_map]
    exact List.sum_le_sum fun m hm => Nat.add_le_add (Text.length_joined_le m.1) (ih m hm)

theorem le_of_sum_map_le {α : Type} {f g : α → Nat} {l : List α} (hle : ∀ a ∈ l, f a ≤ g a)
    (hsum : (l.map g).sum ≤ (l.map f).sum) : ∀ a ∈ l, g a ≤ f a := by
  induction l with
  | nil => simp
  | cons a l ih =>
    have ha := hle a (by simp)
    have hl : (l.map f).sum ≤ (l.map g).sum := List.sum_le_sum fun b hb => hle b (by simp [hb])
    simp only [List.map_cons, List.sum_cons] at hsum
    intro b hb
    rcases List.mem_cons.mp hb with rfl | hb
    · omega
    · exact ih (fun b hb => hle b (by simp [hb])) (by omega) b hb

theorem unpaired_of_points {v : Json} (h : v.points ≤ v.joined.points) :
    Texts (fun t => ¬ t.Paired) v := by
  induction v using tree with
  | null => exact ⟨by simp, by simp⟩
  | bool b => exact ⟨by simp, by simp⟩
  | int i => exact ⟨by simp, by simp⟩
  | float d => exact ⟨by simp, by simp⟩
  | str t => exact texts_str.mpr fun hp => absurd (Text.length_joined_lt hp) (Nat.not_lt.mpr h)
  | arr vs ih =>
    rw [joined, mapText, points, points, mapTextItems_eq, itemPoints_eq, itemPoints_eq,
      List.map_map] at h
    have hitem := le_of_sum_map_le (fun v _ => points_joined_le v) h
    exact texts_arr.mpr fun v hv => ih v hv (hitem v hv)
  | obj ms ih =>
    rw [joined, mapText, points, points] at h
    have hsum := Nat.le_trans h (memberPoints_settled_le _)
    rw [mapTextMembers_eq, memberPoints_eq, memberPoints_eq, List.map_map] at hsum
    have hle : ∀ m ∈ ms, (Text.joined m.1).length + (joined m.2).points ≤ m.1.length + m.2.points :=
      fun m _ => Nat.add_le_add (Text.length_joined_le m.1) (points_joined_le m.2)
    have hmember := le_of_sum_map_le hle hsum
    refine texts_obj.mpr fun m hm => ⟨fun hp => ?_, ih m hm ?_⟩
    · have h1 := hmember m hm
      have h2 := Text.length_joined_lt hp
      have h3 := points_joined_le m.2
      omega
    · have h1 := hmember m hm
      have h2 := Text.length_joined_le m.1
      omega

end Json

end JsonDesk
