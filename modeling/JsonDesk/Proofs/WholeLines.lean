import JsonDesk.Proofs.LogBounds

/-!
Which lines a log keeps when it is cut down.  It keeps the whole lines among its last octets, except
that a cut right behind a line feed costs it the line that begins there: what is left is the longest
end of fewer octets than are kept that starts with a line.
-/

set_option autoImplicit false

namespace JsonDesk.Disk

variable {d d' : Disk} {l : Location} {path : Text} {bytes rest other : List UInt8}
  {limit most keep : Nat}

/-! ### Ends that start with a line -/

/-- Octets from the start of a line on: all of them, or those right behind a line feed. -/
def StartsLine (bytes rest : List UInt8) : Prop :=
  rest = bytes ∨ ∃ front, bytes = front ++ 10 :: rest

/-- The longest end that starts with a line and has no more than so many octets. -/
structure LongestEnd (limit : Nat) (bytes rest : List UInt8) : Prop where
  starts : StartsLine bytes rest
  fits : rest.length ≤ limit
  longest : ∀ other, StartsLine bytes other → other.length ≤ limit → other.length ≤ rest.length

theorem length_le_of_first {x : UInt8} {a b r s : List UInt8} (ha : x ∉ a)
    (h : a ++ x :: r = b ++ x :: s) : s.length ≤ r.length := by
  rcases List.append_eq_append_iff.mp h with ⟨m, rfl, hr⟩ | ⟨m, rfl, hs⟩
  · have hlength := congrArg List.length hr
    simp only [List.length_cons, List.length_append] at hlength
    omega
  · cases m with
    | nil =>
      obtain ⟨-, rfl⟩ := List.cons.inj hs
      exact Nat.le_refl _
    | cons y m =>
      obtain ⟨rfl, -⟩ := List.cons.inj hs
      exact absurd (List.mem_append_right b (.head m)) ha

theorem afterFirstLine_append {a : List UInt8} (ha : 10 ∉ a) (rest : List UInt8) :
    afterFirstLine (a ++ 10 :: rest) = rest := by
  have hother : ∀ b ∈ a, (b != 10) = true := by
    intro b hb
    rw [bne_iff_ne]
    rintro rfl
    exact ha hb
  rw [afterFirstLine, List.dropWhile_append_of_pos hother]
  rfl

theorem exists_cut (hlong : keep < bytes.length)
    (hfeed : 10 ∈ bytes.drop (bytes.length - keep)) :
    ∃ front a rest, bytes = front ++ (a ++ 10 :: rest) ∧ 10 ∉ a ∧
      front = bytes.take (bytes.length - keep) ∧ a.length + rest.length + 1 = keep ∧
      keptTail keep bytes = rest := by
  obtain ⟨a, rest, hcut, ha⟩ := List.eq_append_cons_of_mem hfeed
  have hlength := congrArg List.length hcut
  simp only [List.length_drop, List.length_append, List.length_cons] at hlength
  refine ⟨_, a, rest, ?_, ha, rfl, by omega, ?_⟩
  · rw [← hcut, List.take_append_drop]
  · rw [keptTail, hcut, afterFirstLine_append ha]

/-- What is kept is the longest end of fewer octets. -/
theorem longestEnd_keptTail (hlong : keep < bytes.length)
    (hfeed : 10 ∈ bytes.drop (bytes.length - keep)) :
    LongestEnd (keep - 1) bytes (keptTail keep bytes) := by
  obtain ⟨front, a, rest, hbytes, ha, hfront, hkeep, hkept⟩ := exists_cut hlong hfeed
  have hlength := congrArg List.length hbytes
  simp only [List.length_append, List.length_cons] at hlength
  rw [hkept]
  refine ⟨.inr ⟨front ++ a, by simp [hbytes]⟩, by omega, fun other hstarts hother => ?_⟩
  rcases hstarts with rfl | ⟨front', hbytes'⟩
  · omega
  -- the line feed in front of the other end is among the last octets
  · have hlength' := congrArg List.length hbytes'
    simp only [List.length_append, List.length_cons] at hlength'
    have heq : front ++ (a ++ 10 :: rest) = front' ++ 10 :: other := hbytes ▸ hbytes'
    rcases List.append_eq_append_iff.mp heq with ⟨m, rfl, hrest⟩ | ⟨m, rfl, hrest⟩
    · exact length_le_of_first ha hrest
    · have hm := congrArg List.length hrest
      simp only [List.length_append, List.length_cons] at hm hlength hlength'
      have hnil : m = [] := List.length_eq_zero_iff.mp (by omega)
      subst hnil
      exact length_le_of_first (b := []) ha hrest.symm

theorem longestEnd_keptTail_iff (hlong : keep < bytes.length)
    (hfeed : 10 ∈ bytes.drop (bytes.length - keep)) :
    LongestEnd keep bytes (keptTail keep bytes) ↔
      (bytes.take (bytes.length - keep)).getLast? ≠ some 10 := by
  have hless := longestEnd_keptTail hlong hfeed
  obtain ⟨front, a, rest, hbytes, ha, hfront, hkeep, hkept⟩ := exists_cut hlong hfeed
  rw [← hfront]
  rw [hkept] at hless ⊢
  constructor
  · intro hlongest hlast
    obtain ⟨front', rfl⟩ := List.getLast?_eq_some_iff.mp hlast
    have hstarts : StartsLine bytes (a ++ 10 :: rest) := .inr ⟨front', by simp [hbytes]⟩
    have hle := hlongest.longest _ hstarts (by simp; omega)
    simp only [List.length_append, List.length_cons] at hle
    omega
  · intro hlast
    refine ⟨hless.starts, by omega, fun other hstarts hother => ?_⟩
    by_cases hshort : other.length ≤ keep - 1
    · exact hless.longest other hstarts hshort
    -- an end of just so many octets starts at the cut
    · rcases hstarts with rfl | ⟨front', hbytes'⟩
      · omega
      · have heq : front ++ (a ++ 10 :: rest) = (front' ++ [10]) ++ other := by
          rw [← hbytes, hbytes']
          simp
        have hsame : (a ++ 10 :: rest).length = other.length := by
          simp only [List.length_append, List.length_cons]
          omega
        obtain ⟨rfl, -⟩ := List.append_inj' heq hsame
        exact absurd List.getLast?_concat hlast

/-! ### A file that is cut down -/

theorem exists_writable_of_read (h : d.read path = .ok bytes) :
    ∃ l, d.writable path = .ok l ∧ d.node? l = some (.file bytes) := by
  obtain ⟨l, hlocate, hnode⟩ := read_ok.mp h
  refine ⟨l, writable_iff.mpr ⟨hlocate, ?_, .inl ⟨bytes, hnode⟩⟩, hnode⟩
  -- a slash at the end would ask for a directory
  by_contra hends
  rw [Bool.not_eq_false] at hends
  obtain ⟨-, hfollow⟩ := locate_iff.mp hlocate
  unfold steps at hfollow
  split at hfollow
  · cases hfollow
    cases hnode
  · rw [if_pos hends] at hfollow
    obtain ⟨m, hm, hdirectory⟩ := follow_append_ok hfollow
    have hlast : d.follow [] (names path ++ [Text.ofString "."]) = .ok m :=
      follow_trans hm (follow_cons_ok.mpr ⟨hdirectory, by decide, rfl⟩)
    cases hlast.symm.trans hfollow
    rw [hdirectory] at hnode
    cases hnode

/-- A file within the limit is left as it is, and the disk with it.  Of a longer one with a line feed
among its last octets the longest end of fewer octets is left that starts with a line, which is the
longest of as many octets just if the cut is not right behind a line feed. -/
theorem trim_keeps_whole_lines (hread : d.read path = .ok bytes) (hkeep : keep ≤ most) :
    ∃ d' rest, (trimFile path (.ofNat most) (.ofNat keep)).run.run d = (.ok (), d') ∧
      d'.read path = .ok rest ∧
      (bytes.length ≤ most → d' = d ∧ rest = bytes) ∧
      (most < bytes.length → 10 ∈ bytes.drop (bytes.length - keep) →
        LongestEnd (keep - 1) bytes rest ∧
        (LongestEnd keep bytes rest ↔
          (bytes.take (bytes.length - keep)).getLast? ≠ some 10)) := by
  obtain ⟨l, hwritable, hfile⟩ := exists_writable_of_read hread
  have hrun := run_trimFile_of_file hwritable hfile most keep
  by_cases hlong : most < bytes.length
  · have hkept : keep < bytes.length := Nat.lt_of_le_of_lt hkeep hlong
    rw [if_pos hlong] at hrun
    refine ⟨_, _, hrun, read_of_write (write_of_writable hwritable _), fun hshort => ?_,
      fun _ hfeed => ⟨longestEnd_keptTail hkept hfeed, longestEnd_keptTail_iff hkept hfeed⟩⟩
    exact absurd hlong (Nat.not_lt.mpr hshort)
  · rw [if_neg hlong] at hrun
    exact ⟨d, bytes, hrun, hread, fun _ => ⟨rfl, rfl⟩, fun h => absurd h hlong⟩

/-- Three lines of two octets each: of a cut right behind the first line feed only the last line is
left, although the last two would fit. -/
theorem trim_keeps_whole_lines_boundary :
    (Disk.empty.put ["log"] (.file [97, 10, 98, 10, 99, 10])).read "/log" =
        .ok [97, 10, 98, 10, 99, 10] ∧
      ∃ d' rest, (trimFile "/log" (.ofNat 5) (.ofNat 4)).run.run
          (Disk.empty.put ["log"] (.file [97, 10, 98, 10, 99, 10])) = (.ok (), d') ∧
        d'.read "/log" = .ok rest ∧ LongestEnd 3 [97, 10, 98, 10, 99, 10] rest ∧
        ¬ LongestEnd 4 [97, 10, 98, 10, 99, 10] rest := by
  have hread : (Disk.empty.put ["log"] (.file [97, 10, 98, 10, 99, 10])).read "/log" =
      .ok [97, 10, 98, 10, 99, 10] := rfl
  have hkeep : 4 ≤ 5 := by decide
  obtain ⟨d', rest, hrun, hrest, -, htrimmed⟩ := trim_keeps_whole_lines hread hkeep
  obtain ⟨hless, hall⟩ := htrimmed (by decide) (by decide)
  exact ⟨hread, d', rest, hrun, hrest, hless, hall.not.mpr (by decide)⟩

end JsonDesk.Disk
