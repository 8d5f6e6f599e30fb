import JsonDesk.Proofs.Divergences
import JsonDesk.Proofs.Tallies

/-!
Paths as addresses.  The locations of a comparison all differ, but a name may hold a point or a
bracket, and is written as it is.  Two entries have the same path just if one name goes on with
what for the other entry are the steps behind a name.

A location that begins with the empty name is left out: its first name leaves no trace in the path.
-/

set_option autoImplicit false

namespace JsonDesk

/-- What a step adds to a path that is not empty. -/
def Step.text : Step → Text
  | key name => "." ++ name
  | index i => "[" ++ Text.ofNat i ++ "]"

def trail (loc : List Step) : Text := loc.flatMap Step.text

/-- A name of the second location holds steps of the first one, and the rest is written alike. -/
def Shadows (loc loc' : List Step) : Prop :=
  ∃ way name more l m, more ≠ [] ∧ loc = way ++ .key name :: l ∧
    loc' = way ++ .key (name ++ more) :: m ∧ trail l = more ++ trail m

/-- The first name, if the location begins with one, is not empty. -/
def Difference.Anchored (d : Difference) : Prop := d.location.head? ≠ some (.key [])

/-- The locations part inside a container: one leads to another item or member than the other. -/
inductive Parted : List Step → List Step → Prop
  | items {i j : Nat} (l m : List Step) : i ≠ j → Parted (.index i :: l) (.index j :: m)
  | members {n k : Text} (l m : List Step) : n ≠ k → Parted (.key n :: l) (.key k :: m)
  | later {l m : List Step} (s : Step) : Parted l m → Parted (s :: l) (s :: m)

variable {l m : List Step} {s : Step}

/-! ### Trails -/

@[simp] theorem trail_cons : trail (s :: l) = s.text ++ trail l := rfl

theorem extend_eq {base : Text} (h : base ≠ []) (s : Step) : s.extend base = base ++ s.text := by
  cases s <;> simp [Step.extend, Step.text, childPath, indexPath, h]

theorem foldl_extend (l : List Step) {base : Text} (h : base ≠ []) :
    l.foldl Step.extend base = base ++ trail l := by
  induction l generalizing base with
  | nil => simp [trail]
  | cons s l ih =>
    rw [List.foldl_cons, extend_eq h, ih (by simp [h]), trail_cons, List.append_assoc]

theorem foldl_extend_index (i : Nat) (l : List Step) :
    (Step.index i :: l).foldl Step.extend [] = trail (.index i :: l) := by
  rw [List.foldl_cons, Step.extend, indexPath, foldl_extend l (by simp [Text.ofString]),
    trail_cons, Step.text, List.nil_append]

theorem foldl_extend_key {n : Text} (h : n ≠ []) (l : List Step) :
    (Step.key n :: l).foldl Step.extend [] = n ++ trail l := by
  rw [List.foldl_cons, Step.extend, childPath, if_pos rfl, foldl_extend l h]

theorem head_trail {c : CodePoint} (h : (trail l).head? = some c) :
    c = CodePoint.ofChar '.' ∨ c = CodePoint.ofChar '[' := by
  cases l with
  | nil => simp [trail] at h
  | cons s l =>
    cases s with
    | key n => exact .inl (by simpa [Step.text, Text.ofString, eq_comm] using h)
    | index i => exact .inr (by simpa [Step.text, Text.ofString, eq_comm] using h)

theorem index_eq_of_text {i j : Nat} {r r' : Text}
    (h : (Step.index i).text ++ r = (Step.index j).text ++ r') : i = j := by
  have digits (n : Nat) (r : Text) :
      (Text.ofNat n ++ (CodePoint.ofChar ']' :: r)).takeWhile CodePoint.isDigit = Text.ofNat n := by
    rw [List.takeWhile_append_of_pos (Text.isDigit_of_mem_ofNat n), List.takeWhile_cons_of_neg
      (by decide), List.append_nil]
  have hbehind : Text.ofNat i ++ (CodePoint.ofChar ']' :: r) =
      Text.ofNat j ++ (CodePoint.ofChar ']' :: r') := by
    simpa [Step.text, Text.ofString] using h
  have hdigits := congrArg (List.takeWhile CodePoint.isDigit) hbehind
  rw [digits, digits] at hdigits
  rw [← Numeral.magnitude_ofNat i, hdigits, Numeral.magnitude_ofNat]

/-! ### Names that hold steps -/

theorem shadows_cons : Shadows (s :: l) (s :: m) ↔ Shadows l m := by
  constructor
  · rintro ⟨way, name, more, l', m', hmore, hl, hm, htrail⟩
    cases way with
    | nil =>
      -- the names at which the locations part are not the same
      obtain ⟨hs, -⟩ := List.cons.inj hl
      obtain ⟨hs', -⟩ := List.cons.inj hm
      exact (hmore (List.self_eq_append_right.mp (Step.key.inj (hs.symm.trans hs')))).elim
    | cons t way =>
      exact ⟨way, name, more, l', m', hmore, (List.cons.inj hl).2, (List.cons.inj hm).2, htrail⟩
  · rintro ⟨way, name, more, l', m', hmore, rfl, rfl, htrail⟩
    exact ⟨s :: way, name, more, l', m', hmore, rfl, rfl, htrail⟩

theorem shadows_key {n k : Text} (h : n ≠ k) : Shadows (.key n :: l) (.key k :: m) ↔
    ∃ more, k = n ++ more ∧ trail l = more ++ trail m := by
  constructor
  · rintro ⟨way, name, more, l', m', -, hl, hm, htrail⟩
    cases way with
    | nil =>
      cases hl
      cases hm
      exact ⟨more, rfl, htrail⟩
    | cons t way =>
      obtain ⟨rfl, -⟩ := List.cons.inj hl
      exact absurd (Step.key.inj (List.cons.inj hm).1).symm h
  · rintro ⟨more, rfl, htrail⟩
    exact ⟨[], n, more, l, m, by simpa [eq_comm] using h, rfl, rfl, htrail⟩

theorem not_shadows_index {i j : Nat} (h : i ≠ j) :
    ¬ Shadows (.index i :: l) (.index j :: m) := by
  rintro ⟨way, name, more, l', m', -, hl, hm, -⟩
  cases way with
  | nil => cases hl
  | cons t way =>
    obtain ⟨rfl, -⟩ := List.cons.inj hl
    exact h (Step.index.inj (List.cons.inj hm).1).symm

theorem append_trail_eq {n k : Text} (h : n ≠ k) : n ++ trail l = k ++ trail m ↔
    Shadows (.key n :: l) (.key k :: m) ∨ Shadows (.key k :: m) (.key n :: l) := by
  rw [List.append_eq_append_iff, shadows_key h, shadows_key h.symm]

theorem trail_eq_iff (h : Parted l m) : trail l = trail m ↔ Shadows l m ∨ Shadows m l := by
  induction h with
  | items l m hne =>
    refine iff_of_false (fun h => hne (index_eq_of_text h)) ?_
    exact not_or.mpr ⟨not_shadows_index hne, not_shadows_index hne.symm⟩
  | members l m hne => simp [Step.text, ← append_trail_eq hne]
  | later s _ ih => rw [trail_cons, trail_cons, List.append_cancel_left_eq, ih, shadows_cons,
      shadows_cons]

theorem foldl_extend_eq_iff (h : Parted l m) (hl : l.head? ≠ some (.key []))
    (hm : m.head? ≠ some (.key [])) :
    l.foldl Step.extend [] = m.foldl Step.extend [] ↔ Shadows l m ∨ Shadows m l := by
  rw [← trail_eq_iff h]
  have hname {n : Text} {r : List Step} (h : (Step.key n :: r).head? ≠ some (.key [])) : n ≠ [] :=
    by simpa using h
  cases h with
  | items => rw [foldl_extend_index, foldl_extend_index]
  | members =>
    rw [foldl_extend_key (hname hl), foldl_extend_key (hname hm)]
    simp [Step.text]
  | later s =>
    cases s with
    | index i => rw [foldl_extend_index, foldl_extend_index]
    | key n =>
      rw [foldl_extend_key (hname hl), foldl_extend_key (hname hm)]
      simp [Step.text]

/-! ### Where two differences part -/

namespace Json

variable {v w : Json} {c c' : Change}

theorem child_ne_none_of_below (h : Below l c (v.child? s) (w.child? s)) :
    v.child? s ≠ none ∨ w.child? s ≠ none := by
  cases hv : v.child? s <;> cases hw : w.child? s <;> simp_all [Below]

theorem parted_of_ne {t : Step} (hkind : v.kind = w.kind)
    (hs : v.child? s ≠ none ∨ w.child? s ≠ none) (ht : v.child? t ≠ none ∨ w.child? t ≠ none)
    (hne : s ≠ t) (l m : List Step) : Parted (s :: l) (t :: m) := by
  have mixed (n : Text) (i : Nat) (hn : v.child? (.key n) ≠ none ∨ w.child? (.key n) ≠ none) :
      ¬(v.child? (.index i) ≠ none ∨ w.child? (.index i) ≠ none) := by
    cases v <;> cases w <;> simp_all [child?, kind]
  cases s with
  | key n =>
    cases t with
    | key k => exact .members l m fun h => hne (by rw [h])
    | index j => exact absurd ht (mixed n j hs)
  | index i =>
    cases t with
    | key k => exact absurd hs (mixed k i ht)
    | index j => exact .items l m fun h => hne (by rw [h])

theorem Diverges.eq_nil (h : Diverges v w [] c) (hl : Diverges v w l c') : l = [] := by
  cases l with
  | nil => rfl
  | cons s l =>
    obtain ⟨hkind, hcontainer⟩ := hl.kind_eq
    simpa [hkind, hcontainer] using (diverges_nil.mp h).1

theorem Diverges.parted (hl : Diverges v w l c) (hm : Diverges v w m c') (hne : l ≠ m) :
    Parted l m := by
  induction l generalizing v w m with
  | nil => exact absurd (hl.eq_nil hm).symm hne
  | cons s l ih =>
    cases m with
    | nil => exact absurd (hm.eq_nil hl) hne
    | cons t m =>
      have hkind := hl.kind_eq.1
      have hbelow := (diverges_cons hkind).mp hl
      have hbelow' := (diverges_cons hkind).mp hm
      by_cases hst : s = t
      · subst hst
        have hrest : l ≠ m := fun h => hne (by rw [h])
        -- what only one side has is listed by itself, and nothing below it
        cases hv : v.child? s with
        | none =>
          cases hw : w.child? s with
          | none => simp [hv, hw, Below] at hbelow
          | some b => simp_all [Below]
        | some a =>
          cases hw : w.child? s with
          | none => simp_all [Below]
          | some b =>
            rw [hv, hw] at hbelow hbelow'
            exact .later s (ih hbelow hbelow' hrest)
      · exact parted_of_ne hkind (child_ne_none_of_below hbelow) (child_ne_none_of_below hbelow')
          hst l m

end Json

/-! ### The entries of a comparison -/

theorem Shadows.exists_mark (h : Shadows l m) : ∃ n, Step.key n ∈ m ∧
    (CodePoint.ofChar '.' ∈ n ∨ CodePoint.ofChar '[' ∈ n) := by
  obtain ⟨way, name, more, l', m', hmore, -, rfl, htrail⟩ := h
  obtain ⟨c, more, rfl⟩ := List.exists_cons_of_ne_nil hmore
  refine ⟨name ++ c :: more, by simp, ?_⟩
  rcases head_trail (c := c) (by rw [htrail]; rfl) with rfl | rfl <;> simp

namespace Difference

theorem path_eq_nil_iff {d : Difference} (h : d.Anchored) : d.path [] = [] ↔ d.location = [] := by
  obtain ⟨loc, change⟩ := d
  cases loc with
  | nil => exact iff_of_true rfl rfl
  | cons s l =>
    refine iff_of_false ?_ (List.cons_ne_nil s l)
    cases s with
    | index i =>
      rw [path, foldl_extend_index]
      simp [Step.text, Text.ofString]
    | key n =>
      have hn : n ≠ [] := by simpa [Anchored] using h
      rw [path, foldl_extend_key hn]
      simp [hn]

theorem root_of_path_nil {d : Difference} (h : d.path [] = []) :
    Text.ofString "(root): " <+: (DifferenceNote.ofDifference [] d).row := by
  obtain ⟨loc, change⟩ := d
  cases change <;> simp [DifferenceNote.ofDifference, DifferenceNote.row, h, Text.ofString]

end Difference

/-- No two entries of a comparison have the same location.  Of the entries whose location does not
begin with the empty name, only one for the whole document has the empty path, and two have the same
path just if a name of one holds steps of the other.  So the paths all differ if no name has a point
or a bracket in it. -/
theorem compare_addresses [StackRoom] {a b : Text} {v w : Json} (ha : validate a = .valid v)
    (hb : validate b = .valid w) :
    ((compare a b).map Difference.location).Nodup ∧
    (∀ d ∈ compare a b, d.Anchored → (d.path [] = [] ↔ d.location = [])) ∧
    (∀ d ∈ compare a b, d.path [] = [] →
      Text.ofString "(root): " <+: (DifferenceNote.ofDifference [] d).row) ∧
    (∀ d ∈ compare a b, ∀ e ∈ compare a b, d.Anchored → e.Anchored → d.location ≠ e.location →
      (d.path [] = e.path [] ↔ Shadows d.location e.location ∨ Shadows e.location d.location)) ∧
    ((∀ d ∈ compare a b, d.Anchored ∧ ∀ n, Step.key n ∈ d.location →
        CodePoint.ofChar '.' ∉ n ∧ CodePoint.ofChar '[' ∉ n) →
      ((compare a b).map (Difference.path [])).Nodup) := by
  have hv := Verdict.distinct_of_valid ha
  have hw := Verdict.distinct_of_valid hb
  have hentries : compare a b = v.differences w := by rw [compare, ha, hb]
  have hlocations := Json.nodup_locations v hv hw
  have hpaths : ∀ d ∈ v.differences w, ∀ e ∈ v.differences w, d.Anchored → e.Anchored →
      d.location ≠ e.location →
      (d.path [] = e.path [] ↔ Shadows d.location e.location ∨ Shadows e.location d.location) := by
    intro d hd e he hanchored hanchored' hne
    have hparted := ((Json.mem_differences d.location d.change hv hw).mp hd).parted
      ((Json.mem_differences e.location e.change hv hw).mp he) hne
    exact foldl_extend_eq_iff hparted hanchored hanchored'
  rw [hentries]
  refine ⟨hlocations, fun d _ => Difference.path_eq_nil_iff, fun d _ => Difference.root_of_path_nil,
    hpaths, fun hplain => ?_⟩
  have hmarked {d e : Difference} (he : e ∈ v.differences w) :
      ¬ Shadows d.location e.location := by
    intro h
    obtain ⟨n, hn, hmark⟩ := h.exists_mark
    obtain ⟨hpoint, hbracket⟩ := (hplain e he).2 n hn
    exact hmark.elim hpoint hbracket
  refine List.pairwise_map.mpr ((List.pairwise_map.mp hlocations).imp_of_mem ?_)
  intro d e hd he hne
  exact mt (hpaths d hd e he (hplain d hd).1 (hplain e he).1 hne).mp
    (not_or.mpr ⟨hmarked he, hmarked hd⟩)

def pointed (leaf : Json) : Json := .obj [("a.b", leaf), ("a", .obj [("b", leaf)])]

theorem validate_pointed_null :
    validate "\x7b\"a.b\":null,\"a\":\x7b\"b\":null\x7d\x7d" = .valid (pointed .null) := by cbv

theorem validate_pointed_true :
    validate "\x7b\"a.b\":true,\"a\":\x7b\"b\":true\x7d\x7d" = .valid (pointed (.bool true)) := by
  cbv

theorem compare_pointed :
    compare "\x7b\"a.b\":null,\"a\":\x7b\"b\":null\x7d\x7d"
        "\x7b\"a.b\":true,\"a\":\x7b\"b\":true\x7d\x7d" =
      [⟨[.key "a.b"], .changed .null (.bool true)⟩,
        ⟨[.key "a", .key "b"], .changed .null (.bool true)⟩] := by
  rw [compare, validate_pointed_null, validate_pointed_true]
  rfl

/-- The name with the point holds the step to the inner member. -/
theorem compare_addresses_pointed :
    validate "\x7b\"a.b\":null,\"a\":\x7b\"b\":null\x7d\x7d" = .valid (pointed .null) ∧
      validate "\x7b\"a.b\":true,\"a\":\x7b\"b\":true\x7d\x7d" = .valid (pointed (.bool true)) ∧
      Shadows [.key "a", .key "b"] [.key "a.b"] ∧
      Difference.path [] ⟨[.key "a.b"], .changed .null (.bool true)⟩ =
        Difference.path [] ⟨[.key "a", .key "b"], .changed .null (.bool true)⟩ := by
  have hshadows : Shadows [.key "a", .key "b"] [.key "a.b"] :=
    ⟨[], "a", ".b", [.key "b"], [], by decide, rfl, rfl, rfl⟩
  obtain ⟨-, -, -, hpaths, -⟩ := compare_addresses validate_pointed_null validate_pointed_true
  rw [compare_pointed] at hpaths
  refine ⟨validate_pointed_null, validate_pointed_true, hshadows,
    (hpaths _ (.head _) _ (.tail _ (.head _)) ?_ ?_ (by decide)).mpr (.inr hshadows)⟩
  · simp [Difference.Anchored, Text.ofString]
  · simp [Difference.Anchored, Text.ofString]

/-- A point in a name of one object is not told from a step into another object. -/
theorem not_paths_distinct : ¬ ∀ (a b : Text) (v w : Json), validate a = .valid v →
    validate b = .valid w → ((compare a b).map (Difference.path [])).Nodup ∧
      ∀ d ∈ compare a b, d.path [] = [] → d.location = [] := by
  intro h
  have hnodup := (h _ _ _ _ validate_pointed_null validate_pointed_true).1
  rw [compare_pointed] at hnodup
  exact absurd hnodup (by decide)

end JsonDesk
