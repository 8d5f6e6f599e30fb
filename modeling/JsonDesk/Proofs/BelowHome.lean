import JsonDesk.Proofs.Lines
import JsonDesk.RuntimeDirectory
import Mathlib.Data.List.Basic

/-!
Paths without detours, and the directory for application data.  A path without detours is its names
with slashes between them and at most two in front; normalizing makes one of every path, and none of
its names is a way back.  So such a path lies below the home directory if it has all the names of
that in common with it from the start on, and one more name keeps it there.
-/

set_option autoImplicit false

namespace JsonDesk

namespace Path

variable {p q name : Text} {ns : List Text} {k : Nat}

structure IsName (n : Text) : Prop where
  ne_nil : n ≠ []
  no_slash : CodePoint.ofChar '/' ∉ n
  ne_here : n ≠ Text.ofString "."
  ne_back : n ≠ Text.ofString ".."

/-- What a piece of a path does to the names before it, the last one first. -/
def enter (done : List Text) (piece : Text) : List Text :=
  if piece = [] ∨ piece = Text.ofString "." then done
  else if piece = Text.ofString ".." then done.drop 1
  else piece :: done

theorem names_eq (p : Text) : names p = ((pieces p).foldl enter []).reverse := rfl

theorem enter_nil (done : List Text) : enter done [] = done := if_pos (.inl rfl)

theorem enter_name (h : IsName name) (done : List Text) : enter done name = name :: done := by
  rw [enter, if_neg (by simp [h.ne_nil, h.ne_here]), if_neg h.ne_back]

theorem foldl_enter (h : ∀ n ∈ ns, IsName n) (done : List Text) :
    ns.foldl enter done = ns.reverse ++ done := by
  induction ns generalizing done with
  | nil => rfl
  | cons n ns ih =>
    rw [List.forall_mem_cons] at h
    rw [List.foldl_cons, enter_name h.1, ih h.2]
    simp

theorem isName_enter {done : List Text} {piece : Text} (hdone : ∀ n ∈ done, IsName n)
    (hpiece : CodePoint.ofChar '/' ∉ piece) : ∀ n ∈ enter done piece, IsName n := by
  unfold enter
  split
  · exact hdone
  · next hhere =>
    obtain ⟨hne, hhere⟩ := not_or.mp hhere
    split
    · exact fun n hn => hdone n (List.mem_of_mem_drop hn)
    · next hback => exact List.forall_mem_cons.mpr ⟨⟨hne, hpiece, hhere, hback⟩, hdone⟩

theorem isName_foldl_enter {ps done : List Text} (hps : ∀ piece ∈ ps, CodePoint.ofChar '/' ∉ piece)
    (hdone : ∀ n ∈ done, IsName n) : ∀ n ∈ ps.foldl enter done, IsName n := by
  induction ps generalizing done with
  | nil => exact hdone
  | cons piece ps ih =>
    rw [List.forall_mem_cons] at hps
    exact ih hps.2 (isName_enter hdone hps.1)

theorem isName_of_mem_names (p : Text) : ∀ n ∈ names p, IsName n := by
  intro n hn
  rw [names_eq, List.mem_reverse] at hn
  exact isName_foldl_enter (fun _ => Text.not_mem_of_mem_splitOn) (by simp) n hn

def rooted (k : Nat) (ns : List Text) : Text :=
  List.replicate k (CodePoint.ofChar '/') ++ Text.join "/" ns

theorem normal_eq (p : Text) : normal p = rooted (rootSlashes p) (names p) := rfl

theorem pieces_slash (p : Text) : pieces (CodePoint.ofChar '/' :: p) = [] :: pieces p :=
  Text.splitOn_append [] p

theorem pieces_join (hne : ns ≠ []) (h : ∀ n ∈ ns, IsName n) :
    pieces (Text.join "/" ns) = ns := by
  rw [pieces, Text.join_eq, Text.splitOn_eq]
  exact List.splitOn_intercalate _ (fun n hn => (h n hn).no_slash) hne

theorem pieces_rooted (h : ∀ n ∈ ns, IsName n) :
    pieces (rooted k ns) = List.replicate k [] ++ if ns = [] then [[]] else ns := by
  induction k with
  | zero =>
    split
    · next hnil =>
      subst hnil
      rfl
    · next hne => exact pieces_join hne h
  | succ k ih =>
    have hcons : rooted (k + 1) ns = CodePoint.ofChar '/' :: rooted k ns := rfl
    rw [hcons, pieces_slash, ih]
    rfl

theorem foldl_enter_replicate (k : Nat) (done : List Text) :
    (List.replicate k []).foldl enter done = done := by
  induction k with
  | zero => rfl
  | succ k ih => rw [List.replicate_succ, List.foldl_cons, enter_nil, ih]

theorem names_rooted (h : ∀ n ∈ ns, IsName n) (k : Nat) : names (rooted k ns) = ns := by
  rw [names_eq, pieces_rooted h, List.foldl_append, foldl_enter_replicate]
  split
  · next hnil => simp [hnil, enter_nil]
  · simp [foldl_enter h]

/-- A path without detours: at most two slashes in front, and then names, one slash between them. -/
def IsDirect (p : Text) : Prop := ∃ k ns, k ≤ 2 ∧ (∀ n ∈ ns, IsName n) ∧ p = rooted k ns

theorem rootSlashes_le (p : Text) : rootSlashes p ≤ 2 := by
  unfold rootSlashes
  repeat' split
  all_goals omega

theorem isDirect_normal (p : Text) : IsDirect (normal p) :=
  ⟨_, _, rootSlashes_le p, isName_of_mem_names p, normal_eq p⟩

theorem head_join (h : ∀ n ∈ ns, IsName n) :
    (Text.join "/" ns).head? ≠ some (CodePoint.ofChar '/') := by
  cases ns with
  | nil => simp [Text.join]
  | cons n ns =>
    rw [List.forall_mem_cons] at h
    obtain ⟨c, n, rfl⟩ := List.exists_cons_of_ne_nil h.1.ne_nil
    intro hc
    obtain rfl : c = CodePoint.ofChar '/' := Option.some.inj hc
    exact h.1.no_slash (List.mem_cons_self)

theorem rootSlashes_rooted (hk : k ≤ 2) (h : ∀ n ∈ ns, IsName n) :
    rootSlashes (rooted k ns) = k := by
  have hhead := head_join h
  unfold rooted
  generalize Text.join "/" ns = t at *
  obtain rfl | rfl | rfl : k = 0 ∨ k = 1 ∨ k = 2 := by omega
  all_goals
    cases t with
    | nil => decide
    | cons c t =>
      have hc : c ≠ CodePoint.ofChar '/' := fun hc => hhead (congrArg some hc)
      simp [rootSlashes, Text.startsWith, Text.ofString, List.isPrefixOf, List.replicate,
        Ne.symm hc]

theorem IsDirect.normal_eq (h : IsDirect p) : normal p = p := by
  obtain ⟨k, ns, hk, hns, rfl⟩ := h
  rw [Path.normal_eq, rootSlashes_rooted hk hns, names_rooted hns]

theorem IsDirect.names_eq (h : IsDirect p) : Disk.names p = names p := by
  obtain ⟨k, ns, -, hns, rfl⟩ := h
  have hfilter : ns.filter (· ≠ []) = ns :=
    List.filter_eq_self.mpr fun n hn => by simpa using (hns n hn).ne_nil
  rw [names_rooted hns, Disk.names, pieces_rooted hns]
  split
  · next hnil => simp [hnil]
  · simpa using hfilter

theorem IsName.not_isAbsolute (h : IsName name) : isAbsolute name = false := by
  refine Bool.eq_false_iff.mpr fun habsolute => h.no_slash ?_
  exact (List.isPrefixOf_iff_prefix.mp habsolute).subset (List.mem_singleton_self _)

theorem IsName.not_endsWith (h : IsName name) (front : Text) :
    (front ++ name).endsWith "/" = false := by
  refine Bool.eq_false_iff.mpr fun hends => h.no_slash ?_
  obtain ⟨r, hr⟩ := List.isSuffixOf_iff_suffix.mp hends
  have hlast := congrArg List.getLast? hr
  rw [List.getLast?_append_of_ne_nil front h.ne_nil] at hlast
  refine List.mem_of_getLast? (hlast.symm.trans ?_)
  exact List.getLast?_concat

theorem slash_eq : Text.ofString "/" = [CodePoint.ofChar '/'] := rfl

theorem rooted_concat (k : Nat) (ns : List Text) (n : Text) :
    rooted k (ns ++ [n]) = rooted k [] ++ Text.led '/' ns ++ n := by
  rw [rooted, rooted, slash_eq, Text.join_append, Text.join_singleton]
  simp [Text.join]

theorem endsWith_rooted_nil (k : Nat) :
    rooted k [] = [] ∨ (rooted k []).endsWith "/" = true := by
  cases k with
  | zero => exact .inl rfl
  | succ k =>
    refine .inr (List.isSuffixOf_iff_suffix.mpr ⟨List.replicate k (CodePoint.ofChar '/'), ?_⟩)
    rw [rooted, List.replicate_succ', Text.join, List.append_nil, slash_eq]

theorem join_rooted (h : ∀ n ∈ ns, IsName n) (hname : IsName name) (k : Nat) :
    join (rooted k ns) name = rooted k (ns ++ [name]) := by
  rw [join, if_neg (by simp [hname.not_isAbsolute])]
  obtain rfl | ⟨ns, n, rfl⟩ := List.eq_nil_or_concat' ns
  · rw [rooted_concat, if_pos (endsWith_rooted_nil k), Text.led_nil, List.append_nil]
  · have hn : IsName n := h n (by simp)
    have hends := hn.not_endsWith (rooted k [] ++ Text.led '/' ns)
    rw [rooted_concat, rooted_concat, if_neg (by rw [hends]; simp [hn.ne_nil]), slash_eq]
    simp [Text.led]

theorem IsDirect.join (h : IsDirect p) (hname : IsName name) :
    IsDirect (join p name) ∧ names (join p name) = names p ++ [name] := by
  obtain ⟨k, ns, hk, hns, rfl⟩ := h
  have hall : ∀ n ∈ ns ++ [name], IsName n := by
    simpa [or_imp, forall_and] using ⟨hns, hname⟩
  rw [join_rooted hns hname, names_rooted hall, names_rooted hns]
  exact ⟨⟨k, _, hk, hall, rfl⟩, rfl⟩

/-! ### From the root on -/

theorem isAbsolute_append (h : isAbsolute p = true) (q : Text) : isAbsolute (p ++ q) = true :=
  List.isPrefixOf_iff_prefix.mpr ((List.isPrefixOf_iff_prefix.mp h).trans (List.prefix_append p q))

theorem isAbsolute_join (h : isAbsolute p = true) (q : Text) : isAbsolute (join p q) = true := by
  unfold join
  split
  · assumption
  · split
    · exact isAbsolute_append h q
    · rw [List.append_assoc]
      exact isAbsolute_append h _

theorem isAbsolute_normal (h : isAbsolute p = true) : isAbsolute (normal p) = true := by
  have hroot : rootSlashes p ≠ 0 := by
    unfold rootSlashes
    repeat' split
    all_goals simp_all [isAbsolute]
  obtain ⟨k, hk⟩ := Nat.exists_eq_succ_of_ne_zero hroot
  rw [normal_eq, hk]
  rfl

/-! ### Below a directory -/

def common (ns ms : List Text) : List Text :=
  ((ns.zip ms).takeWhile fun n => n.1 == n.2).map (·.1)

theorem prefix_common (ns ms : List Text) : common ns ms <+: ns ∧ common ns ms <+: ms := by
  induction ns generalizing ms with
  | nil => exact ⟨List.nil_prefix, List.nil_prefix⟩
  | cons n ns ih =>
    cases ms with
    | nil => exact ⟨List.nil_prefix, List.nil_prefix⟩
    | cons m ms =>
      by_cases h : n = m
      · obtain ⟨hfirst, hsecond⟩ := ih ms
        have hcons : common (n :: ns) (m :: ms) = n :: common ns ms := by simp [common, h]
        rw [hcons, ← h]
        exact ⟨(List.prefix_cons_inj n).mpr hfirst, (List.prefix_cons_inj n).mpr hsecond⟩
      · have hnil : common (n :: ns) (m :: ms) = [] := by simp [common, h]
        rw [hnil]
        exact ⟨List.nil_prefix, List.nil_prefix⟩

/-- Being below a directory goes by the names: all of the directory's come first. -/
theorem prefix_of_isUnder (h : isUnder q p = true) : names q <+: names p := by
  obtain ⟨hfirst, hsecond⟩ := prefix_common (names q) (names p)
  have hcommon : rooted 1 (common (names q) (names p)) = q := beq_iff_eq.mp h
  have hnames := names_rooted (fun n hn => isName_of_mem_names q n (hfirst.subset hn)) 1
  rw [hcommon] at hnames
  rwa [hnames]

end Path

namespace RuntimeDirectory

open JsonDesk.Path

variable {s : Surroundings} {h p q : Text}

theorem isDirect_of_absolute (hp : absolute s q = .ok p) : IsDirect p := by
  unfold absolute at hp
  repeat' split at hp
  all_goals cases hp
  all_goals exact isDirect_normal _

def WorksAtRoot (s : Surroundings) : Prop := ∀ w, s.working = some w → isAbsolute w = true

theorem isAbsolute_of_absolute (hs : WorksAtRoot s) (hp : absolute s q = .ok p) :
    isAbsolute p = true := by
  unfold absolute at hp
  split at hp
  · next w hworking =>
    cases hp
    refine isAbsolute_normal ?_
    split
    · assumption
    · exact isAbsolute_join (hs w hworking) q
  · split at hp
    · next habsolute =>
      cases hp
      exact isAbsolute_normal habsolute
    · cases hp

theorem absolute_home_cases (s : Surroundings) : (∃ h, absolute s (home s) = .ok h) ∨
    (s.working = none ∧ isAbsolute (home s) = false) := by
  unfold absolute
  cases hworking : s.working with
  | some w => exact .inl ⟨_, rfl⟩
  | none =>
    cases habsolute : isAbsolute (home s) with
    | true => exact .inl ⟨_, rfl⟩
    | false => exact .inr ⟨rfl, rfl⟩

theorem exists_underHome (hhome : absolute s (home s) = .ok h) (base : Text) :
    ∃ q p, underHome s base = .ok p ∧ absolute s q = .ok p ∧ names h <+: names p := by
  simp only [underHome, hhome]
  cases hbase : absolute s base with
  | error e => exact ⟨home s, h, rfl, hhome, List.prefix_rfl⟩
  | ok p =>
    cases hunder : isUnder h p with
    | true => exact ⟨base, p, by simp [hunder], hbase, prefix_of_isUnder hunder⟩
    | false => exact ⟨home s, h, by simp [hunder], hhome, List.prefix_rfl⟩

theorem underHome_of_gone (hworking : s.working = none) (hhome : isAbsolute (home s) = false)
    (base : Text) : underHome s base = .error (.system .missing none) := by
  have hgone : absolute s (home s) = .error (.system .missing none) := by
    simp [absolute, hworking, hhome]
  have hnone : absolute s [] = .error (.system .missing none) := by
    simp [absolute, hworking, isAbsolute, Text.startsWith, Text.ofString]
  simp only [underHome, hgone, hnone]
  rfl

theorem isName_defaultName : IsName defaultName := by
  refine ⟨?_, ?_, ?_, ?_⟩ <;> decide

/-- The variable that names the directory itself is blank or not set. -/
def Unnamed (s : Surroundings) : Prop :=
  ((Members.get? s.environment overrideVariable).getD .null).orEmpty.strip = []

theorem path_windows (hunnamed : Unnamed s) (name : Text) : ∃ base, path s "win32" name = do
    let dir ← underHome s base
    return Path.join dir name := by
  refine ⟨if valueOf s "LOCALAPPDATA" = [] then valueOf s "APPDATA" else valueOf s "LOCALAPPDATA",
    ?_⟩
  have hnamed : ¬ ((Members.get? s.environment overrideVariable).getD .null).orEmpty.strip ≠ [] :=
    not_not_intro hunnamed
  rw [path, if_neg hnamed, if_pos rfl]

/-- Whatever the variables for application data say, the directory lies below the home directory:
it is a path without detours whose names are those of the home directory, perhaps others, and the
default name; and it starts at the root, as the working directory does.  Only where the home
directory has no absolute form, because it is a relative path and the working directory is gone,
there is none. -/
theorem applicationData_below_home (hunnamed : Unnamed s) :
    (∀ h, absolute s (home s) = .ok h → ∃ p below, path s "win32" defaultName = .ok p ∧
      normal p = p ∧ Disk.names p = Disk.names h ++ below ++ [defaultName] ∧
      (WorksAtRoot s → isAbsolute p = true)) ∧
    ((∃ h, absolute s (home s) = .ok h) ∨ s.working = none ∧ isAbsolute (home s) = false ∧
      path s "win32" defaultName = .error (.system .missing none)) := by
  obtain ⟨base, hpath⟩ := path_windows hunnamed defaultName
  constructor
  · intro h hhome
    obtain ⟨q, dir, hdir, habsolute, below, hbelow⟩ := exists_underHome hhome base
    obtain ⟨hjoined, hnames⟩ := (isDirect_of_absolute habsolute).join isName_defaultName
    refine ⟨_, below, by rw [hpath, hdir]; rfl, hjoined.normal_eq, ?_, fun hs => ?_⟩
    · rw [hjoined.names_eq, (isDirect_of_absolute hhome).names_eq, hnames, hbelow]
    · exact isAbsolute_join (isAbsolute_of_absolute hs habsolute) _
  · refine (absolute_home_cases s).imp_right fun ⟨hworking, hhome⟩ => ⟨hworking, hhome, ?_⟩
    rw [hpath, underHome_of_gone hworking hhome]
    rfl

/-- A home directory beside the working directory, and a variable that leads from there to below
the home directory, past a directory whose name starts like that of the home directory. -/
def sideways : Surroundings :=
  ⟨[("LOCALAPPDATA", .str "../tester2/..//tester/Local/")], "/tester/", some "/work"⟩

theorem applicationData_below_home_sideways :
    Unnamed sideways ∧ WorksAtRoot sideways ∧ absolute sideways (home sideways) = .ok "/tester" ∧
      path sideways "win32" defaultName = .ok "/tester/Local/JsonSmith" ∧
      ∃ below, Disk.names "/tester/Local/JsonSmith" =
        Disk.names "/tester" ++ below ++ [defaultName] ∧
      isAbsolute "/tester/Local/JsonSmith" = true := by
  have hunnamed : Unnamed sideways := rfl
  have hworks : WorksAtRoot sideways := by
    rintro w ⟨⟩
    rfl
  have hhome : absolute sideways (home sideways) = .ok "/tester" := rfl
  have hvalue : path sideways "win32" defaultName = .ok "/tester/Local/JsonSmith" := rfl
  obtain ⟨p, below, hpath, -, hnames, hroot⟩ :=
    (applicationData_below_home hunnamed).1 _ hhome
  rw [hvalue] at hpath
  cases hpath
  exact ⟨hunnamed, hworks, hhome, hvalue, below, hnames, hroot hworks⟩

end RuntimeDirectory

end JsonDesk
