import JsonDesk.Proofs.Digits
import JsonDesk.Proofs.Trimming
import JsonDesk.Session
import Mathlib.Data.List.Nodup
import Mathlib.Data.List.Perm.Subperm
import Mathlib.Data.List.TakeWhile

/-!
The name of a tab that was given none.  It is `Untitled`, or else the first of `Untitled 2`,
`Untitled 3` and so on that no tab has.  Different numbers make different names, and each number
that the search passes by is the name of a tab, so the search ends before there are as many of them
as tabs.
-/

set_option autoImplicit false

namespace JsonDesk

namespace Text

theorem ofNat_injective {m n : Nat} (h : ofNat m = ofNat n) : m = n := by
  rw [← Numeral.magnitude_ofNat m, h, Numeral.magnitude_ofNat]

theorem strip_of_isSpace {t : Text} (h : t.isSpace = true) : t.strip = [] := by
  have hnone : t.dropWhile CodePoint.isBlank = [] :=
    List.dropWhile_eq_nil_iff.mpr (List.all_eq_true.mp h)
  rw [strip, trim, hnone]
  rfl

end Text

namespace Session

open untitledName

variable {names : List Text} {k turns stop : Nat}

theorem candidate_injective : Function.Injective candidate := fun _ _ h =>
  Text.ofNat_injective (List.append_cancel_left h)

theorem candidate_of_lt (h : k < 10) : candidate k = untitled ++ " " ++ [CodePoint.ofDigit k] := by
  rw [candidate, Text.ofNat_of_lt h]

theorem untitled_ne_candidate (k : Nat) : untitled ≠ candidate k := by
  intro h
  have hlength := congrArg List.length h
  simp only [candidate, List.length_append] at hlength
  have hblank : (Text.ofString " ").length = 1 := rfl
  omega

/-- The search from a number on: it takes one turn for each number whose name is there, and stops
at the first one whose name is not.  Nothing but the names bounds it. -/
inductive Search (names : List Text) : (k turns stop : Nat) → Prop
  | found {k : Nat} : candidate k ∉ names → Search names k 0 k
  | turn {k turns stop : Nat} : candidate k ∈ names → Search names (k + 1) turns stop →
    Search names k (turns + 1) stop

/-- A search stops at the least number from its start on whose name is not there, and has made a
turn for each number before. -/
theorem Search.least (h : Search names k turns stop) :
    stop = k + turns ∧ candidate stop ∉ names ∧
      ∀ j, k ≤ j → j < stop → candidate j ∈ names := by
  induction h with
  | found hfree => exact ⟨rfl, hfree, fun j hk hj => by omega⟩
  | @turn k turns stop htaken _ ih =>
    obtain ⟨hstop, hfree, hbefore⟩ := ih
    refine ⟨by omega, hfree, fun j hk hj => ?_⟩
    rcases Nat.eq_or_lt_of_le hk with rfl | hk
    · exact htaken
    · exact hbefore j hk hj

/-- `Untitled` is there, and the names of the numbers from two up to a number. -/
structure Taken (names : List Text) (k : Nat) : Prop where
  untitled : untitled ∈ names
  numbered : ∀ j, 2 ≤ j → j < k → candidate j ∈ names

theorem Taken.next (h : Taken names k) (hk : candidate k ∈ names) : Taken names (k + 1) := by
  refine ⟨h.untitled, fun j htwo hj => ?_⟩
  rcases Nat.eq_or_lt_of_le (Nat.le_of_lt_succ hj) with rfl | hj
  · exact hk
  · exact h.numbered j htwo hj

/-- Taken names are different ones, so there are no more of them than names. -/
theorem Taken.lt_length (h : Taken names (k + 2)) : k < names.length := by
  let taken := JsonDesk.untitled :: (List.range' 2 k).map candidate
  have hnodup : taken.Nodup := by
    refine List.nodup_cons.mpr ⟨fun hmem => ?_, (List.nodup_range').map candidate_injective⟩
    obtain ⟨j, -, hj⟩ := List.mem_map.mp hmem
    exact untitled_ne_candidate j hj.symm
  have hsubset : taken ⊆ names := by
    refine List.cons_subset.mpr ⟨h.untitled, fun t ht => ?_⟩
    obtain ⟨j, hj, rfl⟩ := List.mem_map.mp ht
    obtain ⟨htwo, hlt⟩ := List.mem_range'_1.mp hj
    exact h.numbered j htwo (by omega)
  have hlength := (hnodup.subperm hsubset).length_le
  simp only [taken, List.length_cons, List.length_map, List.length_range'] at hlength
  omega

/-- As long as there are as many turns left as names that could be in the way, the bounded search
is the search. -/
theorem exists_search {left : Nat} (h : Taken names (k + 2)) (hleft : names.length ≤ k + left) :
    ∃ turns stop, Search names (k + 2) turns stop ∧ go names (k + 2) left = candidate stop := by
  induction left generalizing k with
  | zero =>
    have hlt := h.lt_length
    omega
  | succ left ih =>
    rw [go]
    split
    · next htaken =>
      have htaken : candidate (k + 2) ∈ names := by simpa using htaken
      obtain ⟨turns, stop, hsearch, hgo⟩ := ih (k := k + 1) (h.next htaken) (by omega)
      exact ⟨turns + 1, stop, .turn htaken hsearch, hgo⟩
    · next hfree => exact ⟨0, k + 2, .found (by simpa using hfree), rfl⟩

theorem untitledName_of_not_mem (h : untitled ∉ names) : untitledName names = untitled :=
  if_neg (by simpa using h)

theorem untitledName_of_mem (h : untitled ∈ names) : ∃ turns stop, Search names 2 turns stop ∧
    turns < names.length ∧ untitledName names = candidate stop := by
  have htaken : Taken names 2 := ⟨h, fun j htwo hj => by omega⟩
  obtain ⟨turns, stop, hsearch, hgo⟩ := exists_search (k := 0) htaken (Nat.le_add_left _ _)
  obtain ⟨rfl, -, hbefore⟩ := hsearch.least
  have hturns : Taken names (turns + 2) := ⟨h, fun j htwo hj => hbefore j htwo (by omega)⟩
  refine ⟨turns, 2 + turns, hsearch, hturns.lt_length, ?_⟩
  rw [← hgo]
  exact if_pos (by simpa using h)

/-- A tab that is opened with a blank name has a name that no tab has: `Untitled` if that is free,
and otherwise `Untitled` with the least number from two on that makes a free name.  The search for
the number ends, in fewer turns than there are tabs. -/
theorem untitled_fresh {name : Text} (s : Session) (id content : Text) (h : name.isSpace = true) :
    ∃ fresh, (s.add id name content).tabs = s.tabs ++ [⟨id, fresh, content⟩] ∧
      fresh ∉ s.tabs.map Tab.name ∧
      (untitled ∉ s.tabs.map Tab.name → fresh = untitled) ∧
      (untitled ∈ s.tabs.map Tab.name → ∃ turns k, Search (s.tabs.map Tab.name) 2 turns k ∧
        turns < s.tabs.length ∧ fresh = candidate k ∧ 2 ≤ k ∧
        ∀ j, 2 ≤ j → j < k → candidate j ∈ s.tabs.map Tab.name) := by
  generalize hnames : s.tabs.map Tab.name = names
  have hlength : names.length = s.tabs.length := by rw [← hnames, List.length_map]
  refine ⟨untitledName names, ?_, ?_, untitledName_of_not_mem, fun huntitled => ?_⟩
  · rw [add, Text.strip_of_isSpace h, if_pos rfl, hnames]
    rfl
  · by_cases huntitled : untitled ∈ names
    · obtain ⟨turns, stop, hsearch, -, hname⟩ := untitledName_of_mem huntitled
      rw [hname]
      exact hsearch.least.2.1
    · rwa [untitledName_of_not_mem huntitled]
  · obtain ⟨turns, stop, hsearch, hturns, hname⟩ := untitledName_of_mem huntitled
    obtain ⟨hstop, -, hbefore⟩ := hsearch.least
    exact ⟨turns, stop, hsearch, hlength ▸ hturns, hname, by omega, hbefore⟩

/-- `Untitled` and two of its numbers are there, with a gap between the numbers. -/
theorem untitled_fresh_gap :
    let tabs : List Tab :=
      [⟨"a", "Untitled 2", []⟩, ⟨"b", untitled, []⟩, ⟨"c", "Untitled 4", []⟩]
    Text.isSpace "\t " = true ∧
      ((ofTabs "x" tabs "b").add "d" "\t " []).tabs = tabs ++ [⟨"d", "Untitled 3", []⟩] := by
  intro tabs
  have hblank : Text.isSpace "\t " = true := by decide
  obtain ⟨fresh, htabs, hfree, -, hname⟩ := untitled_fresh (ofTabs "x" tabs "b") "d" [] hblank
  obtain ⟨-, k, -, -, rfl, htwo, hbefore⟩ := hname (by decide)
  have hsecond : candidate 2 ∈ tabs.map Tab.name := by
    rw [candidate_of_lt (by decide)]
    decide
  have hthird : candidate 3 = "Untitled 3" := candidate_of_lt (by decide)
  -- the search does not stop at two, and it does not get past three
  have hk : k = 3 := by
    by_contra hne
    have hpast : 2 < k := Nat.lt_of_le_of_ne htwo fun h => hfree (h ▸ hsecond)
    have hmem := hbefore 3 (by decide) (by omega)
    rw [hthird] at hmem
    exact absurd hmem (by decide)
  rw [hk, hthird] at htabs
  exact ⟨hblank, htabs⟩

end Session

end JsonDesk
