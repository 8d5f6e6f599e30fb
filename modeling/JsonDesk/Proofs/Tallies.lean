import JsonDesk.Stats
import JsonDesk.Proofs.Acceptance
import JsonDesk.Proofs.Derived
import Mathlib.Data.List.Dedup
import Mathlib.Data.List.Permutation

/-!
The statistics of a document are those of its tree.  The tally goes through the values in an order
of its own, with a list of those that are still to be looked at; at every moment the names that it
has counted and those below the listed values make up the total, and the greatest depth that it has
seen and the depths that the listed values reach down to have the height as their maximum.
-/

set_option autoImplicit false

namespace JsonDesk

namespace Json

mutual

def totalNames : Json → Nat
  | arr vs => itemNames vs
  | obj ms => (Members.names ms).dedup.length + memberNames ms
  | _ => 0

def itemNames : List Json → Nat
  | [] => 0
  | v :: vs => totalNames v + itemNames vs

def memberNames : List (Text × Json) → Nat
  | [] => 0
  | (_, v) :: ms => totalNames v + memberNames ms

end

mutual

/-- A container with something in it is one higher than the highest value in it; an empty one is
as low as a value that is none. -/
def height : Json → Nat
  | arr vs => if vs.isEmpty then 0 else itemHeight vs + 1
  | obj ms => if ms.isEmpty then 0 else memberHeight ms + 1
  | _ => 0

def itemHeight : List Json → Nat
  | [] => 0
  | v :: vs => max (height v) (itemHeight vs)

def memberHeight : List (Text × Json) → Nat
  | [] => 0
  | (_, v) :: ms => max (height v) (memberHeight ms)

end

theorem memberNames_eq (ms : Members) : memberNames ms = itemNames (ms.map (·.2)) := by
  induction ms with
  | nil => rfl
  | cons m ms ih => rw [memberNames, List.map_cons, itemNames, ih]

theorem memberHeight_eq (ms : Members) : memberHeight ms = itemHeight (ms.map (·.2)) := by
  induction ms with
  | nil => rfl
  | cons m ms ih => rw [memberHeight, List.map_cons, itemHeight, ih]

theorem totalNames_eq {v : Json} (h : Distinct v) :
    v.totalNames = v.nameCount + itemNames v.children := by
  cases v with
  | arr vs => simp only [totalNames, nameCount, children, Nat.zero_add]
  | obj ms =>
    have hown : (Members.names ms).dedup.length = ms.length := by
      rw [(h ms .self).dedup, Members.names, List.length_map]
    rw [totalNames, nameCount, children, hown, memberNames_eq]
  | _ => rfl

theorem height_eq (v : Json) :
    v.height = if v.children.isEmpty then 0 else itemHeight v.children + 1 := by
  cases v with
  | arr vs => rw [height, children]
  | obj ms => rw [height, children, memberHeight_eq, List.isEmpty_map]
  | _ => rfl

theorem Distinct.of_mem_children {u v : Json} (h : Distinct v) (hu : u ∈ v.children) :
    Distinct u := by
  cases v with
  | arr vs => exact h.inside (.item hu .self)
  | obj ms =>
    obtain ⟨m, hm, rfl⟩ := List.mem_map.mp hu
    exact h.inside (.member hm .self)
  | _ => cases hu

theorem itemNames_append (vs ws : List Json) :
    itemNames (vs ++ ws) = itemNames vs + itemNames ws := by
  induction vs with
  | nil => rw [List.nil_append, itemNames, Nat.zero_add]
  | cons v vs ih => rw [List.cons_append, itemNames, itemNames, ih, Nat.add_assoc]

theorem itemNames_reverse (vs : List Json) : itemNames vs.reverse = itemNames vs := by
  induction vs with
  | nil => rfl
  | cons v vs ih =>
    rw [List.reverse_cons, itemNames_append, ih, itemNames, itemNames, itemNames, Nat.add_zero,
      Nat.add_comm]

end Json

namespace Stats
open Json

/-- The greatest depth that listed values, each with its own depth, reach down to. -/
def reach : List (Json × Nat) → Nat
  | [] => 0
  | (v, d) :: rest => max (d + v.height) (reach rest)

theorem reach_append (ps qs : List (Json × Nat)) :
    reach (ps ++ qs) = max (reach ps) (reach qs) := by
  induction ps with
  | nil => rw [List.nil_append, reach, Nat.zero_max]
  | cons p ps ih => rw [List.cons_append, reach, reach, ih, Nat.max_assoc]

theorem reach_reverse (ps : List (Json × Nat)) : reach ps.reverse = reach ps := by
  induction ps with
  | nil => rfl
  | cons p ps ih =>
    rw [List.reverse_cons, reach_append, ih, reach, reach, reach, Nat.max_zero, Nat.max_comm]

theorem reach_map (vs : List Json) (d : Nat) :
    reach (vs.map (·, d)) = if vs.isEmpty then 0 else d + itemHeight vs := by
  induction vs with
  | nil => rfl
  | cons v vs ih =>
    rw [List.map_cons, reach, ih, itemHeight]
    cases vs with
    | nil => simp [itemHeight]
    | cons w ws => simp [Nat.add_max_add_left]

/-- A value at its depth and the values in it, one deeper, reach as far as the value alone. -/
theorem max_reach_children (v : Json) (d : Nat) :
    max d (reach (v.children.map (·, d + 1))) = d + v.height := by
  rw [reach_map, height_eq]
  split <;> omega

/-- What the tally returns is what it holds, together with what the listed values have. -/
theorem tally_eq (pending : List (Json × Nat)) (keys depth : Nat)
    (h : ∀ p ∈ pending, Distinct p.1) :
    tally pending keys depth =
      (keys + itemNames (pending.map (·.1)), max depth (reach pending)) := by
  induction pending, keys, depth using tally.induct with
  | case1 keys depth =>
    rw [tally, reach, List.map_nil, itemNames, Nat.add_zero, Nat.max_zero]
  | case2 v d rest keys depth ih =>
    have hv : Distinct v := h (v, d) List.mem_cons_self
    have hlisted : ∀ p ∈ (v.children.map (·, d + 1)).reverse ++ rest, Distinct p.1 := by
      intro p hp
      rcases List.mem_append.mp hp with hp | hp
      · obtain ⟨u, hu, rfl⟩ := List.mem_map.mp (List.mem_reverse.mp hp)
        exact hv.of_mem_children hu
      · exact h p (List.mem_cons_of_mem _ hp)
    have hchildren : (v.children.map (·, d + 1)).map (·.1) = v.children := by
      rw [List.map_map]
      exact List.map_id _
    have hreach := max_reach_children v d
    rw [tally, ih hlisted, reach_append, reach_reverse, List.map_append, List.map_reverse, hchildren,
      itemNames_append, itemNames_reverse, List.map_cons, itemNames, totalNames_eq hv, reach]
    congr 1 <;> omega

theorem tally_root {v : Json} (h : Distinct v) : tally [(v, 0)] 0 0 = (v.totalNames, v.height) := by
  rw [tally_eq _ _ _ (by simpa using h)]
  simp [itemNames, reach]

end Stats

theorem Verdict.distinct_of_valid [StackRoom] {t : Text} {v : Json} (h : validate t = .valid v) :
    Json.Distinct v := by
  cases hblank : t.isBlank with
  | true =>
    rw [validate_blank hblank] at h
    cases h
    simp [Json.Distinct]
  | false =>
    have hdocument := Json.decode_eq_ok_iff.mp ((validate_eq_valid hblank).mp h)
    obtain @⟨e, -, hvalue⟩ := hdocument
    exact hvalue.distinct

namespace Stats

/-- The statistics of an accepted text count the names of its tree and give the height of it. -/
theorem keys_depth_of_valid [StackRoom] {t : Text} {v : Json} (h : validate t = .valid v) :
    (ofText t).keys = v.totalNames ∧ (ofText t).depth = v.height := by
  have hdistinct := Verdict.distinct_of_valid h
  rw [ofText, h]
  cases v with
  | null => exact ⟨rfl, rfl⟩
  | _ => simp only [Verdict.value?, tally_root hdistinct, and_self]

theorem keys_depth_of_valid_nested :
    validate "\x7b\"a\":null,\"b\":[\x7b\"a\":\x7b\x7d,\"a\":[[]]\x7d]\x7d" =
        .valid (.obj [("a", .null), ("b", .arr [.obj [("a", .arr [.arr []])]])]) ∧
      (ofText "\x7b\"a\":null,\"b\":[\x7b\"a\":\x7b\x7d,\"a\":[[]]\x7d]\x7d").keys = 3 ∧
      (ofText "\x7b\"a\":null,\"b\":[\x7b\"a\":\x7b\x7d,\"a\":[[]]\x7d]\x7d").depth = 4 := by
  have hvalid : validate "\x7b\"a\":null,\"b\":[\x7b\"a\":\x7b\x7d,\"a\":[[]]\x7d]\x7d" =
      .valid (.obj [("a", .null), ("b", .arr [.obj [("a", .arr [.arr []])]])]) := by cbv
  exact ⟨hvalid, keys_depth_of_valid hvalid⟩

end Stats

end JsonDesk
