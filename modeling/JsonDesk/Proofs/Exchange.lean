import JsonDesk.Proofs.Divergences
import Mathlib.Data.List.Permutation

/-!
Comparing the other way round.  What diverges between two values diverges between them in either
order, so the two comparisons list the same locations; only the order of their entries is not the
same, because a comparison goes along its left side.
-/

set_option autoImplicit false

namespace JsonDesk

def Change.swap : Change → Change
  | added v => removed v
  | removed v => added v
  | changed v w => changed w v

@[simp] theorem Change.swap_swap (c : Change) : c.swap.swap = c := by
  cases c <;> rfl

namespace Difference

def swap (d : Difference) : Difference := ⟨d.location, d.change.swap⟩

@[simp] theorem swap_swap (d : Difference) : d.swap.swap = d := by
  simp [swap]

theorem swap_injective : Function.Injective swap :=
  Function.LeftInverse.injective swap_swap

end Difference

namespace DifferenceNote

/-- The entry of the other side: what was added is removed and the other way round. -/
def swap (n : DifferenceNote) : DifferenceNote :=
  let type : Text :=
    if n.type = Text.ofString "added" then "removed"
    else if n.type = Text.ofString "removed" then "added"
    else n.type
  ⟨type, n.path, n.right, n.left⟩

theorem ofDifference_swap (base : Text) (d : Difference) :
    ofDifference base d.swap = (ofDifference base d).swap := by
  obtain ⟨loc, c⟩ := d
  cases c <;> rfl

end DifferenceNote

namespace Json

theorem Shared.swap {v w : Json} {loc : List Step} (h : Shared v w loc) : Shared w v loc := by
  intro front back hloc hback
  obtain ⟨p, q, hp, hq, hk, hc⟩ := h front back hloc hback
  exact ⟨q, p, hq, hp, hk.symm, (isContainer_eq hk).symm.trans hc⟩

theorem Diverges.swap {v w : Json} {loc : List Step} {c : Change} (h : Diverges v w loc c) :
    Diverges w v loc c.swap := by
  cases h with
  | removed front hp hq hk hv hn => exact .added front hq hp hk.symm hn hv
  | added front hp hq hk hn hw => exact .removed front hq hp hk.symm hw hn
  | changed hs hv hw hne =>
    refine .changed hs.swap hw hv ?_
    cases hne with
    | inl hk => exact .inl (Ne.symm hk)
    | inr hsame =>
      obtain ⟨hk, hc, hscalar⟩ := hsame
      exact .inr ⟨hk.symm, (isContainer_eq hk).symm.trans hc, Ne.symm hscalar⟩

theorem diverges_swap {v w : Json} {loc : List Step} {c : Change} :
    Diverges w v loc c.swap ↔ Diverges v w loc c :=
  ⟨fun h => c.swap_swap ▸ h.swap, Diverges.swap⟩

theorem differences_swap {v w : Json} (hv : Distinct v) (hw : Distinct w) :
    (differences w v).Perm ((differences v w).map Difference.swap) := by
  have hleft := List.Nodup.of_map _ (nodup_locations v hv hw)
  have hright := List.Nodup.of_map _ (nodup_locations w hw hv)
  -- without repetitions it is enough that both lists have the same members
  rw [List.perm_ext_iff_of_nodup hright (hleft.map Difference.swap_injective)]
  intro d
  have hmem : d ∈ (differences v w).map Difference.swap ↔ d.swap ∈ differences v w := by
    constructor
    · intro h
      obtain ⟨e, he, rfl⟩ := List.mem_map.mp h
      rwa [Difference.swap_swap]
    · exact fun h => List.mem_map.mpr ⟨d.swap, h, d.swap_swap⟩
  obtain ⟨loc, c⟩ := d
  rw [hmem, Difference.swap, mem_differences loc c hw hv, mem_differences loc c.swap hv hw,
    diverges_swap]

end Json

/-- Documents compared the other way round have the same entries up to their order, with added and
removed exchanged and both values exchanged, each at its path. -/
theorem compare_exchanged [StackRoom] (a b : Text) (ha : a.nesting ≤ 400) (hb : b.nesting ≤ 400) :
    (compare b a).Perm ((compare a b).map Difference.swap) ∧
    ((compare b a).map (DifferenceNote.ofDifference [])).Perm
      (((compare a b).map (DifferenceNote.ofDifference [])).map DifferenceNote.swap) := by
  have hperm : (compare b a).Perm ((compare a b).map Difference.swap) := by
    rw [compare, compare]
    cases hl : validate a with
    | invalid => cases validate b <;> exact .refl _
    | valid v =>
      cases hr : validate b with
      | invalid => exact .refl _
      | valid w =>
        obtain ⟨t, ht⟩ := Verdict.exists_spelling hl ha
        obtain ⟨u, hu⟩ := Verdict.exists_spelling hr hb
        exact Json.differences_swap ht.distinct hu.distinct
  refine ⟨hperm, ?_⟩
  have hnotes := hperm.map (DifferenceNote.ofDifference [])
  have hcomm : DifferenceNote.ofDifference [] ∘ Difference.swap =
      DifferenceNote.swap ∘ DifferenceNote.ofDifference [] :=
    funext (DifferenceNote.ofDifference_swap [])
  rwa [List.map_map, hcomm, ← List.map_map] at hnotes

theorem compare_exchanged_objects :
    Text.nesting "\x7b\"a\":null,\"b\":\"\"\x7d" ≤ 400 ∧
      Text.nesting "\x7b\"b\":true\x7d" ≤ 400 ∧
      ((compare "\x7b\"b\":true\x7d" "\x7b\"a\":null,\"b\":\"\"\x7d").map
          (DifferenceNote.ofDifference [])).Perm
        [⟨"added", "a", none, some .null⟩,
          ⟨"changed", "b", some (.bool true), some (.str [])⟩] := by
  have ha : Text.nesting "\x7b\"a\":null,\"b\":\"\"\x7d" ≤ 400 := by decide
  have hb : Text.nesting "\x7b\"b\":true\x7d" ≤ 400 := by decide
  have hleft : validate "\x7b\"a\":null,\"b\":\"\"\x7d" =
      .valid (.obj [("a", .null), ("b", .str [])]) := by cbv
  have hright : validate "\x7b\"b\":true\x7d" = .valid (.obj [("b", .bool true)]) := by cbv
  obtain ⟨-, hnotes⟩ := compare_exchanged _ _ ha hb
  have hlist : compare "\x7b\"a\":null,\"b\":\"\"\x7d" "\x7b\"b\":true\x7d" =
      [⟨[.key "a"], .removed .null⟩, ⟨[.key "b"], .changed (.str []) (.bool true)⟩] := by
    rw [compare, hleft, hright]
    rfl
  rw [hlist] at hnotes
  exact ⟨ha, hb, hnotes⟩

end JsonDesk
