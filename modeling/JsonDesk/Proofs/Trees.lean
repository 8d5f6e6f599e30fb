import JsonDesk.Proofs.Members

set_option autoImplicit false

namespace JsonDesk

namespace Json

/-- Induction over a value and the values inside it. -/
@[elab_as_elim]
theorem tree {motive : Json → Prop} (null : motive .null) (bool : ∀ b, motive (.bool b))
    (int : ∀ i, motive (.int i)) (float : ∀ d, motive (.float d)) (str : ∀ t, motive (.str t))
    (arr : ∀ vs : List Json, (∀ v ∈ vs, motive v) → motive (.arr vs))
    (obj : ∀ ms : Members, (∀ m ∈ ms, motive m.2) → motive (.obj ms)) (v : Json) : motive v :=
  match v with
  | .null => null
  | .bool b => bool b
  | .int i => int i
  | .float d => float d
  | .str t => str t
  | .arr vs => arr vs fun v _ => tree null bool int float str arr obj v
  | .obj ms => obj ms fun m _ => tree null bool int float str arr obj m.2
termination_by sizeOf v
decreasing_by
  · have := List.sizeOf_lt_of_mem ‹_›
    simp only [Json.arr.sizeOf_spec]
    omega
  · have := List.sizeOf_lt_of_mem (a := m) ‹_›
    obtain ⟨n, v⟩ := m
    simp only [Json.obj.sizeOf_spec, Prod.mk.sizeOf_spec] at this ⊢
    omega

/-- `Inside u v`: the value `u` is `v` or stands somewhere inside it. -/
inductive Inside (u : Json) : Json → Prop
  | self : Inside u u
  | item {v : Json} {vs : List Json} : v ∈ vs → Inside u v → Inside u (.arr vs)
  | member {m : Text × Json} {ms : Members} : m ∈ ms → Inside u m.2 → Inside u (.obj ms)

theorem Inside.trans {u v w : Json} (huv : Inside u v) (hvw : Inside v w) : Inside u w := by
  induction hvw with
  | self => exact huv
  | item hmem _ ih => exact .item hmem ih
  | member hmem _ ih => exact .member hmem ih

@[simp] theorem inside_arr {u : Json} {vs : List Json} :
    Inside u (.arr vs) ↔ u = .arr vs ∨ ∃ v ∈ vs, Inside u v := by
  constructor
  · rintro (_ | ⟨hmem, h⟩)
    · exact .inl rfl
    · exact .inr ⟨_, hmem, h⟩
  · rintro (rfl | ⟨v, hmem, h⟩)
    · exact .self
    · exact .item hmem h

@[simp] theorem inside_obj {u : Json} {ms : Members} :
    Inside u (.obj ms) ↔ u = .obj ms ∨ ∃ m ∈ ms, Inside u m.2 := by
  constructor
  · rintro (_ | _ | ⟨hmem, h⟩)
    · exact .inl rfl
    · exact .inr ⟨_, hmem, h⟩
  · rintro (rfl | ⟨m, hmem, h⟩)
    · exact .self
    · exact .member hmem h

@[simp] theorem inside_null {u : Json} : Inside u .null ↔ u = .null :=
  ⟨fun h => by cases h; rfl, fun h => h ▸ .self⟩

@[simp] theorem inside_bool {u : Json} {b : Bool} : Inside u (.bool b) ↔ u = .bool b :=
  ⟨fun h => by cases h; rfl, fun h => h ▸ .self⟩

@[simp] theorem inside_int {u : Json} {i : Int} : Inside u (.int i) ↔ u = .int i :=
  ⟨fun h => by cases h; rfl, fun h => h ▸ .self⟩

@[simp] theorem inside_float {u : Json} {d : Double} : Inside u (.float d) ↔ u = .float d :=
  ⟨fun h => by cases h; rfl, fun h => h ▸ .self⟩

@[simp] theorem inside_str {u : Json} {t : Text} : Inside u (.str t) ↔ u = .str t :=
  ⟨fun h => by cases h; rfl, fun h => h ▸ .self⟩

mutual

def levels : Json → Nat
  | arr vs => itemLevels vs + 1
  | obj ms => memberLevels ms + 1
  | _ => 0

def itemLevels : List Json → Nat
  | [] => 0
  | v :: vs => max (levels v) (itemLevels vs)

def memberLevels : List (Text × Json) → Nat
  | [] => 0
  | (_, v) :: ms => max (levels v) (memberLevels ms)

end

theorem levels_le_itemLevels {v : Json} {vs : List Json} (h : v ∈ vs) :
    v.levels ≤ itemLevels vs := by
  induction vs with
  | nil => simp at h
  | cons u vs ih =>
    rw [itemLevels]
    rcases List.mem_cons.mp h with rfl | h
    · exact Nat.le_max_left ..
    · exact Nat.le_trans (ih h) (Nat.le_max_right ..)

theorem levels_le_memberLevels {m : Text × Json} {ms : Members} (h : m ∈ ms) :
    m.2.levels ≤ memberLevels ms := by
  induction ms with
  | nil => simp at h
  | cons k ms ih =>
    rw [memberLevels]
    rcases List.mem_cons.mp h with rfl | h
    · exact Nat.le_max_left ..
    · exact Nat.le_trans (ih h) (Nat.le_max_right ..)

mutual

/-- Every string and every name is replaced; names that become the same are settled. -/
def mapText (f : Text → Text) : Json → Json
  | str t => .str (f t)
  | arr vs => .arr (mapTextItems f vs)
  | obj ms => .obj (Members.settled (mapTextMembers f ms))
  | v => v

def mapTextItems (f : Text → Text) : List Json → List Json
  | [] => []
  | v :: vs => mapText f v :: mapTextItems f vs

def mapTextMembers (f : Text → Text) : List (Text × Json) → List (Text × Json)
  | [] => []
  | (n, v) :: ms => (f n, mapText f v) :: mapTextMembers f ms

end

theorem mapTextItems_eq (f : Text → Text) (vs : List Json) :
    mapTextItems f vs = vs.map (mapText f) := by
  induction vs with
  | nil => rfl
  | cons v vs ih => rw [mapTextItems, ih, List.map_cons]

theorem mapTextMembers_eq (f : Text → Text) (ms : Members) :
    mapTextMembers f ms = ms.map fun m => (f m.1, mapText f m.2) := by
  induction ms with
  | nil => rfl
  | cons m ms ih => rw [mapTextMembers, ih, List.map_cons]

/-- No object inside has a name twice. -/
def Distinct (v : Json) : Prop := ∀ ms, Inside (.obj ms) v → (Members.names ms).Nodup

/-- Every string and every name inside has the property. -/
def Texts (P : Text → Prop) (v : Json) : Prop :=
  (∀ t, Inside (.str t) v → P t) ∧ ∀ ms, Inside (.obj ms) v → ∀ n ∈ Members.names ms, P n

theorem Distinct.inside {u v : Json} (h : Distinct v) (hu : Inside u v) : Distinct u :=
  fun ms hms => h ms (hms.trans hu)

theorem Texts.inside {P : Text → Prop} {u v : Json} (h : Texts P v) (hu : Inside u v) :
    Texts P u :=
  ⟨fun t ht => h.1 t (ht.trans hu), fun ms hms => h.2 ms (hms.trans hu)⟩

theorem Texts.imp {P Q : Text → Prop} {v : Json} (h : Texts P v) (hPQ : ∀ t, P t → Q t) :
    Texts Q v :=
  ⟨fun t ht => hPQ t (h.1 t ht), fun ms hms n hn => hPQ n (h.2 ms hms n hn)⟩

theorem texts_str {P : Text → Prop} {t : Text} : Texts P (.str t) ↔ P t := by
  simp [Texts]

theorem texts_arr {P : Text → Prop} {vs : List Json} :
    Texts P (.arr vs) ↔ ∀ v ∈ vs, Texts P v := by
  constructor
  · exact fun h v hv => h.inside (.item hv .self)
  · intro h
    constructor
    · intro t ht
      obtain ⟨v, hv, hin⟩ : ∃ v ∈ vs, Inside (.str t) v := by simpa using ht
      exact (h v hv).1 t hin
    · intro ms hms
      obtain ⟨v, hv, hin⟩ : ∃ v ∈ vs, Inside (.obj ms) v := by simpa using hms
      exact (h v hv).2 ms hin

theorem texts_obj {P : Text → Prop} {ms : Members} :
    Texts P (.obj ms) ↔ ∀ m ∈ ms, P m.1 ∧ Texts P m.2 := by
  constructor
  · exact fun h m hm => ⟨h.2 ms .self m.1 (List.mem_map_of_mem hm), h.inside (.member hm .self)⟩
  · intro h
    constructor
    · intro t ht
      obtain ⟨m, hm, hin⟩ : ∃ m ∈ ms, Inside (.str t) m.2 := by simpa using ht
      exact (h m hm).2.1 t hin
    · intro ks hks n hn
      rcases inside_obj.mp hks with h' | ⟨m, hm, hin⟩
      · cases h'
        obtain ⟨m, hm, rfl⟩ := List.mem_map.mp hn
        exact (h m hm).1
      · exact (h m hm).2.2 ks hin n hn

theorem mapText_eq_self {f : Text → Text} {v : Json} (hd : Distinct v)
    (hf : Texts (fun t => f t = t) v) : mapText f v = v := by
  induction v using tree with
  | null => rfl
  | bool b => rfl
  | int i => rfl
  | float d => rfl
  | str t => rw [mapText, hf.1 t .self]
  | arr vs ih =>
    rw [mapText, mapTextItems_eq]
    congr 1
    conv_rhs => rw [← List.map_id vs]
    refine List.map_congr_left fun v hv => ?_
    have hin : Inside v (.arr vs) := .item hv .self
    exact ih v hv (hd.inside hin) (hf.inside hin)
  | obj ms ih =>
    have hmap : mapTextMembers f ms = ms := by
      rw [mapTextMembers_eq]
      conv_rhs => rw [← List.map_id ms]
      refine List.map_congr_left fun m hm => ?_
      have hin : Inside m.2 (.obj ms) := .member hm .self
      have hn : f m.1 = m.1 := hf.2 ms .self m.1 (List.mem_map_of_mem hm)
      rw [hn, ih m hm (hd.inside hin) (hf.inside hin)]
      rfl
    rw [mapText, hmap, Members.settled_of_nodup (hd ms .self)]

end Json

end JsonDesk
