import JsonDesk.Proofs.Locations
import JsonDesk.Proofs.UnpairedTexts
import Mathlib.Data.List.Induction
import Mathlib.Data.List.TakeWhile

set_option autoImplicit false

namespace JsonDesk

open JsonDesk.Path

variable {p q : Text}

/-! ### Paths -/

namespace Path

theorem exists_last_slash (p : Text) : CodePoint.ofChar '/' ∉ p ∨
    ∃ front last, p = front ++ CodePoint.ofChar '/' :: last ∧ CodePoint.ofChar '/' ∉ last := by
  by_cases hmem : CodePoint.ofChar '/' ∈ p
  · obtain ⟨last, front, hp, hlast⟩ := List.eq_append_cons_of_mem (List.mem_reverse.mpr hmem)
    refine .inr ⟨front.reverse, last.reverse, ?_, by simpa using hlast⟩
    rw [← List.reverse_reverse p, hp]
    simp
  · exact .inl hmem

theorem base_of_last {front last : Text} (hlast : CodePoint.ofChar '/' ∉ last) :
    base (front ++ CodePoint.ofChar '/' :: last) = last := by
  rw [base, pieces, Text.splitOn_append, Text.splitOn_of_not_mem hlast]
  simp

theorem base_of_not_mem (h : CodePoint.ofChar '/' ∉ p) : base p = p := by
  rw [base, pieces, Text.splitOn_of_not_mem h]
  rfl

theorem directory_eq_nil (h : CodePoint.ofChar '/' ∉ p) : directory p = [] := by
  simp [directory, base_of_not_mem h]

theorem directory_of_last {front last : Text} (hlast : CodePoint.ofChar '/' ∉ last) :
    directory (front ++ CodePoint.ofChar '/' :: last) =
      if (front ++ [CodePoint.ofChar '/']).all (· = CodePoint.ofChar '/') then
        front ++ [CodePoint.ofChar '/']
      else Text.dropRightWhile (· = CodePoint.ofChar '/') front := by
  have hhead : (front ++ CodePoint.ofChar '/' :: last).take
      ((front ++ CodePoint.ofChar '/' :: last).length - last.length) =
        front ++ [CodePoint.ofChar '/'] := by
    rw [List.append_cons, List.length_append, Nat.add_sub_cancel]
    exact List.take_left
  have hdrop : Text.dropRightWhile (· = CodePoint.ofChar '/') (front ++ [CodePoint.ofChar '/']) =
      Text.dropRightWhile (· = CodePoint.ofChar '/') front := by
    simp [Text.dropRightWhile]
  rw [directory, base_of_last hlast]
  simp only [hhead, hdrop]

theorem isPrefix_directory (p : Text) : directory p <+: p := by
  unfold directory
  dsimp only
  split
  · exact List.take_prefix _ _
  · exact (Text.isPrefix_dropRightWhile _ _).trans (List.take_prefix _ _)

theorem base_ne_nil (hp : directory p ≠ []) (hends : p.endsWith "/" = false) : base p ≠ [] := by
  obtain hmem | ⟨front, last, rfl, hlast⟩ := exists_last_slash p
  · exact absurd (directory_eq_nil hmem) hp
  · rw [base_of_last hlast]
    rintro rfl
    have hsuffix : (front ++ [CodePoint.ofChar '/']).endsWith "/" = true :=
      List.isSuffixOf_iff_suffix.mpr (List.suffix_append _ _)
    rw [hsuffix] at hends
    cases hends

end Path

namespace Disk

theorem names_append_slash (p : Text) : names (p ++ [CodePoint.ofChar '/']) = names p := by
  rw [names, pieces, Text.splitOn_append, List.filter_append]
  exact List.append_nil _

theorem names_dropRightWhile (p : Text) :
    names (Text.dropRightWhile (· = CodePoint.ofChar '/') p) = names p := by
  induction p using List.reverseRecOn with
  | nil => rfl
  | append_singleton p c ih =>
    by_cases hc : c = CodePoint.ofChar '/'
    · subst hc
      rw [names_append_slash, ← ih]
      simp [Text.dropRightWhile]
    · simp [Text.dropRightWhile, hc]

theorem names_directory (p : Text) :
    names p = names (directory p) ++ [base p].filter (· ≠ []) := by
  obtain hmem | ⟨front, last, rfl, hlast⟩ := exists_last_slash p
  · rw [directory_eq_nil hmem, base_of_not_mem hmem, names, pieces, Text.splitOn_of_not_mem hmem]
    rfl
  · have hnames : names (front ++ CodePoint.ofChar '/' :: last) =
        names front ++ [last].filter (· ≠ []) := by
      rw [names, pieces, Text.splitOn_append, List.filter_append, Text.splitOn_of_not_mem hlast]
      rfl
    have hdirectory : names (directory (front ++ CodePoint.ofChar '/' :: last)) = names front := by
      rw [directory_of_last hlast]
      split
      · exact names_append_slash front
      · exact names_dropRightWhile front
    rw [hnames, hdirectory, base_of_last hlast]

theorem follow_trans {d : Disk} {here m l : Location} {xs ys : List Text}
    (hxs : d.follow here xs = .ok m) (hys : d.follow m ys = .ok l) :
    d.follow here (xs ++ ys) = .ok l := by
  induction xs generalizing here with
  | nil =>
    cases hxs
    exact hys
  | cons x xs ih =>
    obtain ⟨hhere, hlong, hrest⟩ := follow_cons_ok.mp hxs
    exact follow_cons_ok.mpr ⟨hhere, hlong, ih hrest⟩

theorem follow_append_ok {d : Disk} {here l : Location} {xs : List Text} {y : Text}
    (h : d.follow here (xs ++ [y]) = .ok l) :
    ∃ m, d.follow here xs = .ok m ∧ d.node? m = some .directory := by
  induction xs generalizing here with
  | nil => exact ⟨here, rfl, (follow_cons_ok.mp h).1⟩
  | cons x xs ih =>
    obtain ⟨hhere, hlong, hrest⟩ := follow_cons_ok.mp h
    obtain ⟨m, hfollow, hm⟩ := ih hrest
    exact ⟨m, follow_cons_ok.mpr ⟨hhere, hlong, hfollow⟩, hm⟩

variable {d : Disk} {l m : Location}

theorem checkPath_ok : checkPath p = .ok () ↔
    (∀ c ∈ p, (c.isSurrogate && !isOctetSurrogate c) = false) ∧ (∀ c ∈ p, c.val ≠ 0) ∧ p ≠ [] ∧
      p.utf8Length ≤ maxPath := by
  have hgood : (p.dropWhile fun c => !(c.isSurrogate && !isOctetSurrogate c)) = [] ↔
      ∀ c ∈ p, (c.isSurrogate && !isOctetSurrogate c) = false := by
    rw [List.dropWhile_eq_nil_iff]
    exact forall₂_congr fun c _ => by cases c.isSurrogate && !isOctetSurrogate c <;> simp
  rw [← hgood]
  unfold checkPath
  dsimp only
  cases p.dropWhile fun c => !(c.isSurrogate && !isOctetSurrogate c) with
  | cons c rest => simp
  | nil =>
    dsimp only
    split
    · next hzero =>
      obtain ⟨c, hc, hzero⟩ : ∃ c ∈ p, c.val = 0 := by simpa using hzero
      simp only [reduceCtorEq, true_and, false_iff]
      exact fun h => h.1 c hc hzero
    · next hzero =>
      have hzero : ∀ c ∈ p, c.val ≠ 0 := by simpa using hzero
      split
      · next hnil => simp [hnil]
      · next hnil =>
        split
        · next hlong => simp [Nat.not_le.mpr hlong]
        · next hlong => exact iff_of_true rfl ⟨rfl, hzero, hnil, Nat.not_lt.mp hlong⟩

theorem utf8Length_append (p q : Text) : (p ++ q).utf8Length = p.utf8Length + q.utf8Length := by
  have hgo (t : Text) (n : Nat) :
      t.foldl (fun n c => n + c.utf8Size) n = n + t.foldl (fun n c => n + c.utf8Size) 0 := by
    induction t generalizing n with
    | nil => rfl
    | cons c t ih =>
      rw [List.foldl_cons, List.foldl_cons, ih, ih (0 + c.utf8Size)]
      omega
  rw [Text.utf8Length, List.foldl_append, hgo]
  rfl

theorem checkPath_mono (h : q <+: p) (hq : q ≠ []) (hp : checkPath p = .ok ()) :
    checkPath q = .ok () := by
  obtain ⟨hgood, hzero, -, hshort⟩ := checkPath_ok.mp hp
  obtain ⟨rest, rfl⟩ := h
  rw [utf8Length_append] at hshort
  exact checkPath_ok.mpr ⟨fun c hc => hgood c (List.mem_append_left _ hc),
    fun c hc => hzero c (List.mem_append_left _ hc), hq, by omega⟩

theorem locate_of_directory (hcheck : checkPath p = .ok ())
    (hfollow : d.follow [] (names p) = .ok m) (hm : d.node? m = some .directory) :
    d.locate p = .ok m := by
  refine locate_iff.mpr ⟨hcheck, ?_⟩
  unfold steps
  split
  · next hnil => rwa [hnil] at hfollow
  · split
    · exact follow_trans hfollow (follow_cons_ok.mpr ⟨hm, by decide, rfl⟩)
    · exact hfollow

theorem ensureDirectory_of_directory (hcheck : checkPath p = .ok ())
    (hfollow : d.follow [] (names p) = .ok m) (hm : d.node? m = some .directory) :
    d.ensureDirectory p = (.ok (), d) := by
  have hmake : d.makeDirectory p = .error (.system .occupied (some p)) := by
    simp [makeDirectory, hcheck, hfollow, hm, bind, Except.bind, Except.mapError, throw, throwThe,
      MonadExceptOf.throw]
  have hthere : d.isDirectory p = true := by
    simp [isDirectory, stat?, locate_of_directory hcheck hfollow hm, hm]
  rw [ensureDirectory, hmake]
  exact if_pos hthere

theorem makeDirectories_of_directory (hcheck : checkPath p = .ok ())
    (hfollow : d.follow [] (names p) = .ok m) (hm : d.node? m = some .directory) :
    d.makeDirectories p = (.ok (), d) := by
  have hwhole : names (if base p = [] then directory p else p) = names p := by
    split
    · next hbase => rw [names_directory p, hbase]; simp
    · rfl
  have hprefix : (if base p = [] then directory p else p) <+: p := by
    split
    · exact isPrefix_directory p
    · exact List.prefix_rfl
  rw [makeDirectories, dif_neg]
  · exact ensureDirectory_of_directory hcheck hfollow hm
  -- what the directory is in is there as well
  rintro ⟨-, hparent, hname, hnone⟩
  generalize (if base p = [] then directory p else p) = whole at *
  rw [← hwhole, names_directory whole, List.filter_cons_of_pos (by simpa using hname),
    List.filter_nil] at hfollow
  obtain ⟨m', hfollow', hm'⟩ := follow_append_ok hfollow
  have hcheck' := checkPath_mono ((isPrefix_directory whole).trans hprefix) hparent hcheck
  simp [stat?, locate_of_directory hcheck' hfollow' hm', hm'] at hnone

theorem makeDirectories_of_writable (h : d.writable p = .ok l) (hp : directory p ≠ []) :
    d.makeDirectories (directory p) = (.ok (), d) := by
  obtain ⟨hlocate, hends, -⟩ := writable_iff.mp h
  obtain ⟨hcheck, hfollow⟩ := locate_iff.mp hlocate
  have hbase : base p ≠ [] := base_ne_nil hp hends
  have hsteps : steps p = names (directory p) ++ [base p] := by
    have hnames : names p = names (directory p) ++ [base p] := by
      rw [names_directory p, List.filter_cons_of_pos (by simpa using hbase), List.filter_nil]
    unfold steps
    split
    · next hnil => simp [hnil] at hnames
    · rw [hends, if_neg (by simp), hnames]
  rw [hsteps] at hfollow
  obtain ⟨m, hfollow, hm⟩ := follow_append_ok hfollow
  exact makeDirectories_of_directory (checkPath_mono (isPrefix_directory p) hp hcheck) hfollow hm

end Disk

end JsonDesk
