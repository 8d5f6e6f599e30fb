import JsonDesk.Disk.Store
import JsonDesk.Proofs.Digits
import JsonDesk.Proofs.Lines
import Mathlib.Order.Defs.Unbundled

set_option autoImplicit false

namespace JsonDesk

namespace Path

/-- A text that is the name of one thing in a directory. -/
structure Plain (n : Text) : Prop where
  ne_nil : n ≠ []
  no_slash : CodePoint.ofChar '/' ∉ n
  ne_dot : n ≠ Text.ofString "."
  ne_dots : n ≠ Text.ofString ".."

variable {n : Text}

theorem Plain.not_absolute (h : Plain n) : isAbsolute n = false := by
  cases n with
  | nil => exact absurd rfl h.ne_nil
  | cons c n =>
    have hc : CodePoint.ofChar '/' ≠ c := fun heq => h.no_slash (heq ▸ .head _)
    have habsolute : isAbsolute (c :: n) = (CodePoint.ofChar '/' == c && List.isPrefixOf [] n) := rfl
    simp [habsolute, hc]

theorem Plain.join_eq (h : Plain n) (q : Text) : join q n = n ∨ ∃ r,
    join q n = r ++ CodePoint.ofChar '/' :: n := by
  have hslash : Text.ofString "/" = [CodePoint.ofChar '/'] := rfl
  unfold join
  rw [if_neg (by simp [h.not_absolute])]
  split
  · next hq =>
    obtain rfl | hq := hq
    · exact .inl rfl
    · obtain ⟨r, rfl⟩ := List.isSuffixOf_iff_suffix.mp hq
      exact .inr ⟨r, by rw [hslash]; simp⟩
  · exact .inr ⟨q, by rw [hslash]; simp⟩

theorem Plain.last_join (h : Plain n) (q : Text) : (join q n).getLast? = n.getLast? := by
  obtain hjoin | ⟨r, hjoin⟩ := h.join_eq q
  · rw [hjoin]
  · rw [hjoin, List.append_cons, List.getLast?_append, List.getLast?_eq_some_getLast h.ne_nil]
    rfl

theorem Plain.join_ne_nil (h : Plain n) (q : Text) : join q n ≠ [] := by
  obtain hjoin | ⟨r, hjoin⟩ := h.join_eq q
  · rw [hjoin]
    exact h.ne_nil
  · simp [hjoin]

end Path

namespace Disk

open JsonDesk.Path (Plain)

variable {d d' d'' : Disk} {l : Location} {n q : Text}

theorem exists_steps (h : Plain n) (q : Text) : ∃ front, steps (Path.join q n) = front ++ [n] := by
  have hnames : ∃ front, names (Path.join q n) = front ++ [n] := by
    have hn : [n].filter (· ≠ []) = [n] := by simp [h.ne_nil]
    obtain hjoin | ⟨r, hjoin⟩ := h.join_eq q
    · exact ⟨[], by rw [names, Path.pieces, hjoin, Text.splitOn_of_not_mem h.no_slash, hn]; rfl⟩
    · refine ⟨(Path.pieces r).filter (· ≠ []), ?_⟩
      rw [names, Path.pieces, hjoin, Text.splitOn_append, Text.splitOn_of_not_mem h.no_slash,
        List.filter_append, hn]
      rfl
  have hends : ¬ (Path.join q n).endsWith "/" = true := by
    intro hends
    obtain ⟨r, hr⟩ := List.isSuffixOf_iff_suffix.mp hends
    have hlast : (Path.join q n).getLast? = some (CodePoint.ofChar '/') := by
      rw [← hr]
      exact List.getLast?_concat
    rw [h.last_join] at hlast
    exact h.no_slash (List.mem_of_getLast? hlast)
  obtain ⟨front, hnames⟩ := hnames
  refine ⟨front, ?_⟩
  unfold steps
  rw [hnames]
  split
  · next hnil => simp at hnil
  · exact if_neg hends

/-- Where a name leads from a directory. -/
def enter (here : Location) (name : Text) : Location :=
  if name = Text.ofString "." then here
  else if name = Text.ofString ".." then here.dropLast
  else here ++ [name]

theorem follow_cons_ok {here : Location} {name : Text} {names : List Text} :
    d.follow here (name :: names) = .ok l ↔ d.node? here = some .directory ∧
      ¬ maxName < name.utf8Length ∧ d.follow (enter here name) names = .ok l := by
  rw [follow]
  cases hhere : d.node? here with
  | none => simp
  | some node =>
    cases node with
    | file bytes => simp
    | directory =>
      by_cases hlong : maxName < name.utf8Length
      · simp [hlong]
      · unfold enter
        simp only [hlong, if_false, not_false_eq_true, true_and]
        split
        · rfl
        · split <;> rfl

theorem follow_append {here : Location} {front : List Text} (h : Plain n)
    (hfollow : d.follow here (front ++ [n]) = .ok l) : ∃ m, l = m ++ [n] := by
  induction front generalizing here with
  | nil =>
    obtain ⟨-, -, hlast⟩ := follow_cons_ok.mp hfollow
    rw [enter, if_neg h.ne_dot, if_neg h.ne_dots] at hlast
    cases hlast
    exact ⟨here, rfl⟩
  | cons name front ih => exact ih (follow_cons_ok.mp hfollow).2.2

theorem locate_ok {p : Text} (h : d.locate p = .ok l) :
    checkPath p = .ok () ∧ d.follow [] (steps p) = .ok l := by
  unfold locate at h
  cases hcheck : checkPath p with
  | error e =>
    rw [hcheck] at h
    cases h
  | ok u =>
    rw [hcheck] at h
    refine ⟨rfl, ?_⟩
    cases hfollow : d.follow [] (steps p) with
    | error e => simp [hfollow, bind, Except.bind, Except.mapError] at h
    | ok m => simpa [hfollow, bind, Except.bind, Except.mapError] using h

theorem last_of_locate (h : Plain n) (hlocate : d.locate (Path.join q n) = .ok l) :
    l.getLast? = some n := by
  obtain ⟨front, hsteps⟩ := exists_steps h q
  obtain ⟨-, hfollow⟩ := locate_ok hlocate
  rw [hsteps] at hfollow
  obtain ⟨m, rfl⟩ := follow_append h hfollow
  exact List.getLast?_concat

theorem locate_iff {p : Text} :
    d.locate p = .ok l ↔ checkPath p = .ok () ∧ d.follow [] (steps p) = .ok l := by
  refine ⟨locate_ok, fun ⟨hcheck, hfollow⟩ => ?_⟩
  rw [locate, hcheck]
  simp [hfollow, bind, Except.bind, Except.mapError]

theorem checkDirectory_ok {p : Text} :
    d.checkDirectory p l = .ok () ↔ d.node? l = some .directory := by
  unfold checkDirectory
  split <;> simp_all

/-- A file is at the location, or a new one can be put there. -/
def Takes (d : Disk) (l : Location) : Prop :=
  (∃ bytes, d.node? l = some (.file bytes)) ∨
    d.node? l = none ∧ d.node? l.dropLast = some .directory

theorem Takes.not_directory (h : d.Takes l) : d.node? l ≠ some .directory := by
  obtain ⟨bytes, hfile⟩ | ⟨hfree, -⟩ := h
  · simp [hfile]
  · simp [hfree]

theorem writable_iff {p : Text} :
    d.writable p = .ok l ↔ d.locate p = .ok l ∧ p.endsWith "/" = false ∧ d.Takes l := by
  unfold writable
  cases hcheck : checkPath p with
  | error e => simp [locate_iff, hcheck, bind, Except.bind]
  | ok u =>
    cases hends : p.endsWith "/" with
    | true =>
      simp only [bind, Except.bind, if_true, reduceCtorEq, false_and, and_false, iff_false]
      split
      · simp
      · split <;> simp [throw, throwThe, MonadExceptOf.throw]
    | false =>
      cases hlocate : d.locate p with
      | error e => simp [bind, Except.bind]
      | ok m =>
        have hparent := checkDirectory_ok (d := d) (p := p) (l := m.dropLast)
        simp only [bind, Except.bind, pure, Except.pure, Except.ok.injEq, true_and,
          Bool.false_eq_true, if_false]
        cases hnode : d.node? m with
        | none =>
          cases hcheck : d.checkDirectory p m.dropLast with
          | ok u =>
            have hdirectory := hparent.mp hcheck
            simp only [Except.ok.injEq, iff_self_and]
            rintro rfl
            exact .inr ⟨hnode, hdirectory⟩
          | error e =>
            simp only [reduceCtorEq, false_iff]
            rintro ⟨rfl, ⟨bytes, hfile⟩ | ⟨-, hdirectory⟩⟩
            · simp [hnode] at hfile
            · simp [hparent.mpr hdirectory] at hcheck
        | some node =>
          cases node with
          | file bytes =>
            simp only [Except.ok.injEq, iff_self_and]
            rintro rfl
            exact .inl ⟨bytes, hnode⟩
          | directory =>
            simp only [throw, throwThe, MonadExceptOf.throw, reduceCtorEq, false_iff]
            rintro ⟨rfl, htakes⟩
            exact htakes.not_directory hnode

theorem writable_ok {p : Text} (h : d.writable p = .ok l) :
    d.locate p = .ok l ∧ d.node? l ≠ some .directory := by
  obtain ⟨hlocate, -, htakes⟩ := writable_iff.mp h
  exact ⟨hlocate, htakes.not_directory⟩

/-! ### What stays -/

/-- Directories stay, and whatever does not have one of the names. -/
structure Spares (N : Text → Prop) (d d' : Disk) : Prop where
  directory : ∀ l, d.node? l = some .directory → d'.node? l = some .directory
  other : ∀ l, (∀ n, l.getLast? = some n → ¬ N n) → d'.node? l = d.node? l

variable {N : Text → Prop}

instance (N : Text → Prop) : IsPreorder Disk (Spares N) where
  refl _ := ⟨fun _ h => h, fun _ _ => rfl⟩
  trans _ _ _ h h' :=
    ⟨fun l hl => h'.directory l (h.directory l hl), fun l hl => (h'.other l hl).trans (h.other l hl)⟩

theorem follow_of_directories (h : ∀ l, d.node? l = some .directory → d'.node? l = some .directory)
    {here : Location} {names : List Text} (hfollow : d.follow here names = .ok l) :
    d'.follow here names = .ok l := by
  induction names generalizing here with
  | nil => exact hfollow
  | cons name names ih =>
    obtain ⟨hhere, hlong, hrest⟩ := follow_cons_ok.mp hfollow
    exact follow_cons_ok.mpr ⟨h here hhere, hlong, ih hrest⟩

theorem Spares.locate {p : Text} (h : Spares N d d') (hlocate : d.locate p = .ok l) :
    d'.locate p = .ok l := by
  obtain ⟨hcheck, hfollow⟩ := locate_ok hlocate
  unfold Disk.locate
  rw [hcheck, follow_of_directories h.directory hfollow]
  rfl

theorem spares_put (hnode : d.node? l ≠ some .directory) (hl : ∀ n, l.getLast? = some n → N n)
    (bytes : List UInt8) : Spares N d (d.put l (.file bytes)) := by
  have hne : l ≠ [] := fun hnil => hnode (by rw [hnil]; rfl)
  refine ⟨fun m hm => ?_, fun m hm => ?_⟩
  · rw [node?_put d hne, if_neg (by rintro rfl; exact hnode hm), hm]
  · rw [node?_put d hne, if_neg]
    rintro rfl
    obtain ⟨n, hn⟩ := List.getLast?_isSome.mpr hne |> Option.isSome_iff_exists.mp
    exact hm n hn (hl n hn)

theorem spares_erase (hnode : d.node? l ≠ some .directory) (hl : ∀ n, l.getLast? = some n → N n) :
    Spares N d (d.erase l) := by
  have hne : l ≠ [] := fun hnil => hnode (by rw [hnil]; rfl)
  refine ⟨fun m hm => ?_, fun m hm => ?_⟩
  · rw [node?_erase d hne, if_neg (by rintro rfl; exact hnode hm), hm]
  · rw [node?_erase d hne, if_neg]
    rintro rfl
    obtain ⟨n, hn⟩ := List.getLast?_isSome.mpr hne |> Option.isSome_iff_exists.mp
    exact hm n hn (hl n hn)

theorem read_ok {p : Text} {bytes : List UInt8} :
    d.read p = .ok bytes ↔ ∃ l, d.locate p = .ok l ∧ d.node? l = some (.file bytes) := by
  unfold read
  cases hlocate : d.locate p with
  | error e => simp [bind, Except.bind]
  | ok l =>
    cases hnode : d.node? l with
    | none => simp [bind, Except.bind, hnode, throw, throwThe, MonadExceptOf.throw]
    | some node =>
      cases node <;> simp [bind, Except.bind, hnode, throw, throwThe, MonadExceptOf.throw, pure,
        Except.pure]

theorem isFile_of_read {p : Text} {bytes : List UInt8} (h : d.read p = .ok bytes) :
    d.isFile p = true := by
  obtain ⟨l, hlocate, hnode⟩ := read_ok.mp h
  simp [isFile, stat?, hlocate, hnode]

theorem Spares.read {bytes : List UInt8} (h : Spares N d d') (hn : Plain n) (hN : ¬ N n)
    (hread : d.read (Path.join q n) = .ok bytes) : d'.read (Path.join q n) = .ok bytes := by
  obtain ⟨l, hlocate, hnode⟩ := read_ok.mp hread
  refine read_ok.mpr ⟨l, h.locate hlocate, (h.other l fun m hm => ?_).trans hnode⟩
  cases (last_of_locate hn hlocate).symm.trans hm
  exact hN

/-! ### Operations under a name -/

theorem exists_of_write {p : Text} {bytes : List UInt8} (h : d.write p bytes = .ok d') :
    ∃ l, d.locate p = .ok l ∧ d.node? l ≠ some .directory ∧ d' = d.put l (.file bytes) := by
  unfold write at h
  cases hwritable : d.writable p with
  | error e =>
    rw [hwritable] at h
    cases h
  | ok l =>
    rw [hwritable] at h
    cases h
    obtain ⟨hlocate, hnode⟩ := writable_ok hwritable
    exact ⟨l, hlocate, hnode, rfl⟩

theorem exists_of_remove {p : Text} (h : d.remove p = .ok d') :
    ∃ l bytes, d.locate p = .ok l ∧ d.node? l = some (.file bytes) ∧ d' = d.erase l := by
  unfold remove at h
  cases hlocate : d.locate p with
  | error e =>
    rw [hlocate] at h
    cases h
  | ok l =>
    simp only [hlocate, bind, Except.bind, throw, throwThe, MonadExceptOf.throw, pure,
      Except.pure] at h
    split at h
    · cases h
    · cases h
    · next bytes hnode =>
      cases h
      exact ⟨l, bytes, rfl, hnode, rfl⟩

theorem exists_of_rename {source target : Text} (h : d.rename source target = .ok d') :
    ∃ bytes l m, d.read source = .ok bytes ∧ d.locate source = .ok l ∧
      d.node? l = some (.file bytes) ∧ d.locate target = .ok m ∧
      d.node? m ≠ some .directory ∧ d' = (d.erase l).put m (.file bytes) := by
  unfold rename at h
  simp only [bind, Except.bind, pure, Except.pure] at h
  cases hread : d.read source with
  | error e =>
    rw [hread] at h
    cases h
  | ok bytes =>
    obtain ⟨l, hlocate, hnode⟩ := read_ok.mp hread
    cases hwritable : d.writable target with
    | error e =>
      rw [hread, hlocate, hwritable] at h
      cases h
    | ok m =>
      rw [hread, hlocate, hwritable] at h
      cases h
      obtain ⟨htarget, hm⟩ := writable_ok hwritable
      exact ⟨bytes, l, m, rfl, hlocate, hnode, htarget, hm, rfl⟩

/-! ### Files that are put -/

section

variable {m : Location} {p : Text}

theorem putEntry_putEntry (l : Location) (m n : Node) (es : List (Location × Node)) :
    putEntry l n (putEntry l m es) = putEntry l n es := by
  induction es with
  | nil => simp [putEntry]
  | cons e es ih => by_cases h : e.1 = l <;> simp [putEntry, h, ih]

theorem put_put (d : Disk) (l : Location) (m n : Node) : (d.put l m).put l n = d.put l n :=
  congrArg Disk.mk (putEntry_putEntry l m n d.entries)

theorem Takes.ne_nil (h : d.Takes l) : l ≠ [] := by
  rintro rfl
  exact h.not_directory rfl

theorem Takes.node?_put (h : d.Takes l) (bytes : List UInt8) (m : Location) :
    (d.put l (.file bytes)).node? m = if l = m then some (.file bytes) else d.node? m :=
  Disk.node?_put d h.ne_nil _ m

theorem Takes.directory_put (h : d.Takes l) (bytes : List UInt8) (m : Location) :
    (d.put l (.file bytes)).node? m = some .directory ↔ d.node? m = some .directory := by
  rw [h.node?_put]
  split
  · next heq =>
    subst heq
    simp [h.not_directory]
  · rfl

theorem Takes.locate_put (h : d.Takes l) (bytes : List UInt8) :
    (d.put l (.file bytes)).locate p = .ok m ↔ d.locate p = .ok m := by
  simp only [locate_iff]
  refine and_congr_right fun _ => ⟨?_, ?_⟩
  · exact follow_of_directories fun m => (h.directory_put bytes m).mp
  · exact follow_of_directories fun m => (h.directory_put bytes m).mpr

theorem Takes.takes_put (h : d.Takes l) (bytes : List UInt8) :
    (d.put l (.file bytes)).Takes m ↔ d.Takes m := by
  by_cases heq : l = m
  · subst heq
    exact iff_of_true (.inl ⟨bytes, by rw [h.node?_put, if_pos rfl]⟩) h
  · unfold Takes
    rw [h.directory_put, h.node?_put, if_neg heq]

theorem Takes.writable_put (h : d.Takes l) (bytes : List UInt8) :
    (d.put l (.file bytes)).writable p = .ok m ↔ d.writable p = .ok m := by
  rw [writable_iff, writable_iff, h.locate_put, h.takes_put]

theorem write_of_writable (h : d.writable p = .ok l) (bytes : List UInt8) :
    d.write p bytes = .ok (d.put l (.file bytes)) := by
  rw [write, h]
  rfl

end

end Disk

end JsonDesk
