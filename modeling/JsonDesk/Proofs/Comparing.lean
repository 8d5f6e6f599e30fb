import JsonDesk.Proofs.Derived
import JsonDesk.Proofs.Quantities

set_option autoImplicit false

namespace JsonDesk

namespace Json

def child? : Json → Step → Option Json
  | arr vs, .index i => vs[i]?
  | obj ms, .key name => Members.get? ms name
  | _, _ => none

def at? (v : Json) : List Step → Option Json
  | [] => some v
  | s :: loc => (v.child? s).bind (·.at? loc)

def isContainer : Json → Bool
  | arr _ | obj _ => true
  | _ => false

end Json

namespace Difference

def under (s : Step) (d : Difference) : Difference := ⟨s :: d.location, d.change⟩

/-- The same difference at the end of a way, which leads back to the root. -/
def behind (way : List Step) (d : Difference) : Difference := ⟨way.reverse ++ d.location, d.change⟩

theorem behind_cons (s : Step) (way : List Step) (d : Difference) :
    d.behind (s :: way) = (d.under s).behind way := by
  simp [behind, under]

@[simp] theorem behind_nil : behind [] = id := rfl

end Difference

namespace Json
open Difference

/-- The differences behind one step, by what the step leads to on either side. -/
def branch (s : Step) : Option Json → Option Json → List Difference
  | some v, some w => (differences v w).map (under s)
  | some v, none => [⟨[s], .removed v⟩]
  | none, some w => [⟨[s], .added w⟩]
  | none, none => []

/-- The steps into two containers of the same type, in the order in which they are compared. -/
def steps : Json → Json → List Step
  | arr vs, arr ws => (List.range (max vs.length ws.length)).map .index
  | obj ms, obj ns =>
    (Members.names ms ++ (Members.names ns).filter fun n => (Members.get? ms n).isNone).map .key
  | _, _ => []

/-! ### The accumulator -/

/-- Comparing in front of other differences, behind a way. -/
def Appends (v : Json) : Prop := ∀ way done w,
  compareOnto way done v w = ((differences v w).map (behind way)).reverse ++ done

theorem lone_eq (change : Json → Change) (way : List Step) (i : Nat) (vs : List Json)
    (done : List Difference) :
    lone change way i vs done = (((List.range vs.length).flatMap fun k =>
      (vs[k]?.map fun v => (⟨[.index (i + k)], change v⟩ : Difference)).toList).map
        (behind way)).reverse ++ done := by
  induction vs generalizing i done with
  | nil => rfl
  | cons v vs ih =>
    rw [lone, ih, List.length_cons, List.range_succ_eq_map, List.flatMap_cons, List.flatMap_map]
    simp [behind, Nat.add_assoc, Nat.add_comm 1]

theorem branch_none_left (s : Step) (w : Option Json) :
    branch s none w = (w.map fun w => (⟨[s], .added w⟩ : Difference)).toList := by
  cases w <;> rfl

theorem branch_none_right (s : Step) (v : Option Json) :
    branch s v none = (v.map fun v => (⟨[s], .removed v⟩ : Difference)).toList := by
  cases v <;> rfl

theorem compareItems_eq {vs : List Json} (hvs : ∀ v ∈ vs, Appends v) (way : List Step) (i : Nat)
    (done : List Difference) (ws : List Json) :
    compareItems way i done vs ws = (((List.range (max vs.length ws.length)).flatMap fun k =>
      branch (.index (i + k)) vs[k]? ws[k]?).map (behind way)).reverse ++ done := by
  induction vs generalizing i done ws with
  | nil => simp [compareItems, lone_eq, branch_none_left]
  | cons v vs ih =>
    cases ws with
    | nil => simp [compareItems, lone_eq, branch_none_right]
    | cons w ws =>
      have hrange : max (v :: vs).length (w :: ws).length = max vs.length ws.length + 1 := by
        simp only [List.length_cons]
        omega
      have hv := hvs v (.head _)
      rw [compareItems, ih (fun u hu => hvs u (.tail _ hu)), hv, hrange, List.range_succ_eq_map,
        List.flatMap_cons, List.flatMap_map]
      simp [branch, Function.comp_def, behind_cons, Nat.add_assoc, Nat.add_comm 1]

theorem fresh_eq (way : List Step) (ms ns : Members) (done : List Difference) :
    fresh way ms ns done = (((ns.filter fun n => (Members.get? ms n.1).isNone).map fun n =>
      (⟨[.key n.1], .added n.2⟩ : Difference)).map (behind way)).reverse ++ done := by
  induction ns generalizing done with
  | nil => rfl
  | cons n ns ih =>
    rw [fresh]
    cases h : Members.get? ms n.1 <;> simp [ih, h, behind]

theorem compareMembers_eq {ms : Members} (hms : ∀ m ∈ ms, Appends m.2) (way : List Step)
    (ns : Members) (done : List Difference) :
    compareMembers way ns done ms = ((ms.flatMap fun m =>
      branch (.key m.1) (some m.2) (Members.get? ns m.1)).map (behind way)).reverse ++ done := by
  induction ms generalizing done with
  | nil => rfl
  | cons m ms ih =>
    have hm := hms m (.head _)
    rw [compareMembers]
    cases h : Members.get? ns m.1 with
    | none => simp [ih fun k hk => hms k (.tail _ hk), branch, h, behind]
    | some w =>
      simp only [hm _ _ _, ih fun k hk => hms k (.tail _ hk)]
      simp [branch, h, Function.comp_def, behind_cons]

theorem compareOnto_scalar {v w : Json} (h : v.isContainer = false ∨ v.kind ≠ w.kind)
    (way : List Step) (done : List Difference) : compareOnto way done v w =
      if v.kind = w.kind ∧ sameScalar v w = true then done
      else ⟨way.reverse, .changed v w⟩ :: done := by
  cases v <;> cases w <;> simp_all [isContainer, kind, compareOnto]

theorem appends_of_scalar {v w : Json} (h : v.isContainer = false ∨ v.kind ≠ w.kind)
    (way : List Step) (done : List Difference) :
    compareOnto way done v w = ((differences v w).map (behind way)).reverse ++ done := by
  rw [differences, compareOnto_scalar h, compareOnto_scalar h]
  split <;> simp [behind]

theorem appends (v : Json) : Appends v := by
  induction v using tree with
  | null => exact fun way done w => appends_of_scalar (.inl rfl) way done
  | bool b => exact fun way done w => appends_of_scalar (.inl rfl) way done
  | int i => exact fun way done w => appends_of_scalar (.inl rfl) way done
  | float d => exact fun way done w => appends_of_scalar (.inl rfl) way done
  | str t => exact fun way done w => appends_of_scalar (.inl rfl) way done
  | arr vs ih =>
    intro way done w
    cases w with
    | arr ws =>
      rw [differences, compareOnto, compareOnto, compareItems_eq ih, compareItems_eq ih]
      simp
    | _ => exact appends_of_scalar (.inr (by simp [kind])) way done
  | obj ms ih =>
    intro way done w
    cases w with
    | obj ns =>
      simp only [differences, compareOnto, compareMembers_eq ih, fresh_eq]
      simp
    | _ => exact appends_of_scalar (.inr (by simp [kind])) way done

/-! ### The differences of two values -/

theorem differences_scalar {v w : Json} (h : v.isContainer = false ∨ v.kind ≠ w.kind) :
    differences v w =
      if v.kind = w.kind ∧ sameScalar v w = true then [] else [⟨[], .changed v w⟩] := by
  rw [differences, compareOnto_scalar h]
  split <;> rfl

theorem differences_container {v w : Json} (hv : v.isContainer = true) (hk : v.kind = w.kind)
    (hdv : Distinct v) (hdw : Distinct w) :
    differences v w = (steps v w).flatMap fun s => branch s (v.child? s) (w.child? s) := by
  cases v with
  | arr vs =>
    cases w with
    | arr ws =>
      rw [differences, compareOnto, compareItems_eq fun v _ => appends v]
      simp [steps, List.flatMap_map, child?]
    | _ => simp [kind] at hk
  | obj ms =>
    cases w with
    | obj ns =>
      have hms : ∀ m ∈ ms, Members.get? ms m.1 = some m.2 := fun m hm =>
        Members.get?_of_mem (hdv ms .self) hm
      have hns : ∀ n ∈ ns, Members.get? ns n.1 = some n.2 := fun n hn =>
        Members.get?_of_mem (hdw ns .self) hn
      have hleft : (ms.flatMap fun m => branch (.key m.1) (some m.2) (Members.get? ns m.1)) =
          ms.flatMap fun m => branch (.key m.1) (Members.get? ms m.1) (Members.get? ns m.1) :=
        List.flatMap_congr fun m hm => by rw [hms m hm]
      have hright : ((ns.filter fun n => (Members.get? ms n.1).isNone).map fun n =>
            (⟨[.key n.1], .added n.2⟩ : Difference)) =
          (ns.filter fun n => (Members.get? ms n.1).isNone).flatMap fun n =>
            branch (.key n.1) (Members.get? ms n.1) (Members.get? ns n.1) := by
        rw [List.map_eq_flatMap]
        refine List.flatMap_congr fun n hn => ?_
        obtain ⟨hn, hnone⟩ := List.mem_filter.mp hn
        rw [hns n hn, Option.isNone_iff_eq_none.mp hnone]
        rfl
      rw [differences, compareOnto, compareMembers_eq fun m _ => appends m.2, fresh_eq, hleft,
        hright]
      simp [steps, List.flatMap_map, child?, Members.names, List.filter_map, Function.comp_def]
    | _ => simp [kind] at hk
  | _ => simp [isContainer] at hv

/-! ### Steps and children -/

theorem at?_cons (v : Json) (s : Step) (loc : List Step) :
    v.at? (s :: loc) = (v.child? s).bind (·.at? loc) := rfl

theorem at?_singleton (v : Json) (s : Step) : v.at? [s] = v.child? s := by
  simp [at?]

theorem inside_of_child? {u v : Json} {s : Step} (h : v.child? s = some u) : Inside u v := by
  cases v with
  | arr vs =>
    cases s with
    | index i => exact .item (List.mem_of_getElem? h) .self
    | key n => cases h
  | obj ms =>
    cases s with
    | index i => cases h
    | key n => exact .member (Members.mem_of_get? h) .self
  | _ => cases h

theorem kind_of_child? {v w p q : Json} {s : Step} (hv : v.child? s = some p)
    (hw : w.child? s = some q) : v.kind = w.kind ∧ v.isContainer = true := by
  cases v with
  | arr vs => cases s <;> cases w <;> simp_all [child?, kind, isContainer]
  | obj ms => cases s <;> cases w <;> simp_all [child?, kind, isContainer]
  | _ => cases hv

/-- Induction over a value from its children. -/
theorem descend {motive : Json → Prop}
    (h : ∀ v, (∀ s u, v.child? s = some u → motive u) → motive v) (v : Json) : motive v := by
  induction v using tree with
  | arr vs ih =>
    refine h _ fun s u hu => ?_
    cases s with
    | index i => exact ih u (List.mem_of_getElem? hu)
    | key n => cases hu
  | obj ms ih =>
    refine h _ fun s u hu => ?_
    cases s with
    | index i => cases hu
    | key n => exact ih _ (Members.mem_of_get? hu)
  | _ => exact h _ fun s u hu => by cases hu

theorem get?_ne_none {ms : Members} {n : Text} :
    Members.get? ms n ≠ none ↔ n ∈ Members.names ms := by
  rw [Option.ne_none_iff_exists']
  constructor
  · intro h
    obtain ⟨v, hv⟩ := h
    exact List.mem_map_of_mem (f := Prod.fst) (Members.mem_of_get? hv)
  · exact Members.exists_get?

theorem mem_steps {v w : Json} (hk : v.kind = w.kind) {s : Step} :
    s ∈ steps v w ↔ v.child? s ≠ none ∨ w.child? s ≠ none := by
  cases v <;> cases w <;> simp [kind] at hk <;> cases s <;>
    simp [steps, child?, ← get?_ne_none, Option.isNone_iff_eq_none]
  -- only a name is left, which counts as new if it is not on the left
  tauto

theorem nodup_steps {v w : Json} (hv : Distinct v) (hw : Distinct w) : (steps v w).Nodup := by
  cases v with
  | arr vs =>
    cases w with
    | arr ws => exact List.nodup_range.map fun i j h => Step.index.inj h
    | _ => exact List.nodup_nil
  | obj ms =>
    cases w with
    | obj ns =>
      refine List.Nodup.map (fun m n h => Step.key.inj h) ?_
      refine List.Nodup.append (hv ms .self) ((hw ns .self).filter _) ?_
      intro n hn hfresh
      have hnone := (List.mem_filter.mp hfresh).2
      exact get?_ne_none.mpr hn (Option.isNone_iff_eq_none.mp hnone)
    | _ => exact List.nodup_nil
  | _ => exact List.nodup_nil

end Json

end JsonDesk
