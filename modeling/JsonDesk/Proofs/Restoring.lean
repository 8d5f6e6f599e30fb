import JsonDesk.Disk.Store
import JsonDesk.Proofs.Sessions
import Mathlib.Data.List.Permutation

/-!
What is restored from the files of an editor.  Whatever a settings file holds, each setting is
within its bounds; whatever a session file holds, its tabs have different ids and one of them is
active.  Two kinds of values stand in the way: numbers that are not finite where a size is expected,
and numbers and truth values where a list of tabs is.
-/

set_option autoImplicit false

namespace JsonDesk

namespace Json

def member (v : Json) (name : Text) : Json :=
  match v with
  | obj ms => field ms name
  | _ => null

/-- The integer that a number is rounded to, towards zero. -/
inductive Rounds : Json → Int → Prop
  | int (i : Int) : Rounds (int i) i
  | float {d : Double} {i : Int} : d.whole? = some i → Rounds (float d) i

/-- A number that no integer is near. -/
inductive Endless : Json → Prop
  | nan : Endless (float .nan)
  | infinite (negative : Bool) : Endless (float (.infinite negative))

/-- Something that counts as present, but has no items. -/
inductive Unlisted : Json → Prop
  | yes : Unlisted (bool true)
  | int {i : Int} : i ≠ 0 → Unlisted (int i)
  | float {d : Double} : d.isZero = false → Unlisted (float d)

theorem Rounds.unique {v : Json} {i j : Int} (h : Rounds v i) (h' : Rounds v j) : i = j := by
  cases h with
  | int => cases h'; rfl
  | float h =>
    cases h' with
    | float h' => exact Option.some.inj (h.symm.trans h')

end Json

open Json

namespace Settings

/-- A setting is the number that is given for it if that is within the bounds, and otherwise has its
default. -/
inductive Chosen (v : Json) (low high other : Int) : Int → Prop
  | given {i : Int} : v.Rounds i → low ≤ i → i ≤ high → Chosen v low high other i
  | default : (∀ i, v.Rounds i → ¬ (low ≤ i ∧ i ≤ high)) → Chosen v low high other other

theorem Chosen.within {v : Json} {low high other n : Int} (h : Chosen v low high other n)
    (hlow : low ≤ other) (hhigh : other ≤ high) : low ≤ n ∧ n ≤ high := by
  cases h with
  | given _ hl hh => exact ⟨hl, hh⟩
  | default => exact ⟨hlow, hhigh⟩

theorem chosen_of_rounds {v : Json} {i : Int} (hv : v.Rounds i) (low high other : Int) :
    Chosen v low high other (if low ≤ i ∧ i ≤ high then i else other) := by
  split
  · next h => exact .given hv h.1 h.2
  · next h => exact .default fun j hj => hj.unique hv ▸ h

theorem bounded_cases (v : Json) (low high other : Int) :
    (¬ v.Endless ∧ ∃ n, bounded v low high other = .ok n ∧ Chosen v low high other n) ∨
      v.Endless ∧ ∃ f, bounded v low high other = .error f ∧
        (f = .infiniteInteger ∨ f = .undefinedInteger) := by
  cases v with
  | int i =>
    exact .inl ⟨by rintro ⟨⟩, _, rfl, chosen_of_rounds (.int i) low high other⟩
  | float d =>
    cases d with
    | nan => exact .inr ⟨.nan, _, rfl, .inr rfl⟩
    | infinite negative => exact .inr ⟨.infinite negative, _, rfl, .inl rfl⟩
    | finite s m e h =>
      exact .inl ⟨by rintro ⟨⟩, _, rfl, chosen_of_rounds (.float rfl) low high other⟩
  | _ => exact .inl ⟨by rintro ⟨⟩, _, rfl, .default (by rintro i ⟨⟩)⟩

/-- The theme is the one that is named, if there is such a theme, and otherwise the dark one. -/
def ThemeChosen (v : Json) (theme : Theme) : Prop :=
  v.orEmpty.strip.lower = theme.name ∨
    (∀ t : Theme, v.orEmpty.strip.lower ≠ t.name) ∧ theme = .dark

theorem themeChosen (v : Json) : ThemeChosen v ((Theme.ofName? v.orEmpty).getD .dark) := by
  cases h : Theme.ofName? v.orEmpty with
  | some theme =>
    have hname := List.find?_some h
    exact .inl (by simpa [eq_comm] using hname)
  | none =>
    have hnone := List.find?_eq_none.mp h
    refine .inr ⟨fun t => ?_, rfl⟩
    cases t <;> simpa [eq_comm] using hnone _ (by simp)

structure ReadFrom (v : Json) (s : Settings) : Prop where
  indentWidth : Chosen (v.member "indent_width") 1 8 2 s.indentWidth
  fontSize : Chosen (v.member "font_size") 6 32 11 s.fontSize
  feedbackDelay : Chosen (v.member "live_feedback_delay_ms") 0 5000 300 s.feedbackDelay
  theme : ThemeChosen (v.member "theme") s.theme

def numberNames : List Text := ["indent_width", "font_size", "live_feedback_delay_ms"]

theorem ofJson_cases (v : Json) :
    ((∀ name ∈ numberNames, ¬ (v.member name).Endless) ∧ ∃ s, ofJson v = .ok s ∧ ReadFrom v s) ∨
      (∃ name ∈ numberNames, (v.member name).Endless) ∧ ∃ f, ofJson v = .error f ∧
        (f = .infiniteInteger ∨ f = .undefinedInteger) := by
  cases v with
  | obj ms =>
    obtain ⟨hindent, indentWidth, hi, hci⟩ | ⟨hindent, f, hf, hkind⟩ :=
      bounded_cases (field ms "indent_width") 1 8 default.indentWidth
    case inr => exact .inr ⟨⟨_, by simp [numberNames], hindent⟩, f, by rw [ofJson, hf]; rfl, hkind⟩
    obtain ⟨hfont, fontSize, hs, hcs⟩ | ⟨hfont, f, hf, hkind⟩ :=
      bounded_cases (field ms "font_size") 6 32 default.fontSize
    case inr =>
      exact .inr ⟨⟨_, by simp [numberNames], hfont⟩, f, by rw [ofJson, hi, hf]; rfl, hkind⟩
    obtain ⟨hdelay, feedbackDelay, hd, hcd⟩ | ⟨hdelay, f, hf, hkind⟩ :=
      bounded_cases (field ms "live_feedback_delay_ms") 0 5000 default.feedbackDelay
    case inr =>
      exact .inr ⟨⟨_, by simp [numberNames], hdelay⟩, f, by rw [ofJson, hi, hs, hf]; rfl, hkind⟩
    refine .inl ⟨by simpa [numberNames, member] using ⟨hindent, hfont, hdelay⟩,
      ⟨indentWidth, _, fontSize, feedbackDelay⟩, by rw [ofJson, hi, hs, hd]; rfl, ?_⟩
    exact ⟨hci, hcs, hcd, themeChosen _⟩
  | _ =>
    have hdefault (low high other : Int) : Chosen .null low high other other :=
      .default (by rintro i ⟨⟩)
    exact .inl ⟨by rintro name - ⟨⟩, default, rfl, hdefault 1 8 2, hdefault 6 32 11, hdefault 0 5000 300,
      themeChosen .null⟩

end Settings

namespace Disk

/-- Whatever a settings file is, the settings are restored from it just if none of the numbers in it
that are sizes is endless.  Every size is within its bounds then: it is the number that is given for
it, rounded, or else its default, and what is given for one setting is nothing to the others. -/
theorem loadSettings_tolerant (d : Disk) (path : Text) :
    ((∃ s, d.loadSettings path = .ok s) ↔
      ∀ name ∈ Settings.numberNames, ¬ ((d.loadValue path).member name).Endless) ∧
    (∀ s, d.loadSettings path = .ok s → Settings.ReadFrom (d.loadValue path) s ∧
      (1 ≤ s.indentWidth ∧ s.indentWidth ≤ 8) ∧ (6 ≤ s.fontSize ∧ s.fontSize ≤ 32) ∧
      (0 ≤ s.feedbackDelay ∧ s.feedbackDelay ≤ 5000)) ∧
    ∀ f, d.loadSettings path = .error f → f = .infiniteInteger ∨ f = .undefinedInteger := by
  unfold loadSettings
  obtain ⟨hnone, s, hs, hread⟩ | ⟨⟨name, hname, hendless⟩, f, hf, hkind⟩ :=
    Settings.ofJson_cases (d.loadValue path)
  · have hbounds := And.intro (hread.indentWidth.within (by decide) (by decide))
      (And.intro (hread.fontSize.within (by decide) (by decide))
        (hread.feedbackDelay.within (by decide) (by decide)))
    refine ⟨⟨fun _ => hnone, fun _ => ⟨s, hs⟩⟩, fun s' hs' => ?_, fun f hf => ?_⟩
    · cases hs.symm.trans hs'
      exact ⟨hread, hbounds⟩
    · cases hs.symm.trans hf
  · refine ⟨⟨fun hok => ?_, fun hnone => absurd hendless (hnone name hname)⟩, fun s hs => ?_,
      fun f' hf' => ?_⟩
    · obtain ⟨s, hs⟩ := hok
      cases hf.symm.trans hs
    · cases hf.symm.trans hs
    · cases hf.symm.trans hf'
      exact hkind

example : Settings.ofJson
    (.obj [("theme", .str "light"), ("font_size", .float (.infinite false))]) =
    .error .infiniteInteger := rfl

end Disk

/-! ### Sessions -/

namespace Session

def wantedId (ms : Members) : Text := (field ms "id").orEmpty.strip

def wantedId? : Json → Option Text
  | .obj ms => some (wantedId ms)
  | _ => none

def wantedIds (v : Json) : List Text :=
  match (v.member "tabs").iterate with
  | .ok raws => raws.filterMap wantedId?
  | .error _ => []

/-- New ids differ from each other and from some ids that are in use, and none of them is blank. -/
structure Supplies (fresh : Nat → Text) (used : List Text) : Prop where
  injective : Function.Injective fresh
  unused : ∀ n, fresh n ∉ used
  ne_nil : ∀ n, fresh n ≠ []

theorem supplies_replicate {c : CodePoint} {used : List Text}
    (h : ∀ id ∈ used, id.head? ≠ some c) : Supplies (fun n => List.replicate (n + 1) c) used where
  injective m n heq := by simpa using congrArg List.length heq
  unused n hmem := h _ hmem rfl
  ne_nil n := List.cons_ne_nil _ _

/-- The id that a record gets when some ids are taken: the one it asks for, or else a new one. -/
def givenId (fresh : Text) (seen : List Text) (ms : Members) : Text :=
  if wantedId ms ≠ [] ∧ ¬ seen.contains (wantedId ms) then wantedId ms else fresh

theorem givenId_cases {fresh : Nat → Text} {used seen : List Text} {n : Nat} {ms : Members}
    (hfresh : Supplies fresh used) (hms : wantedId ms ∈ used)
    (hseen : ∀ id ∈ seen, id ∈ used ∨ ∃ k < n, fresh k = id) :
    givenId (fresh n) seen ms ∉ seen ∧ givenId (fresh n) seen ms ≠ [] ∧
      (givenId (fresh n) seen ms ∈ used ∨ fresh n = givenId (fresh n) seen ms) := by
  unfold givenId
  split
  · next h => exact ⟨by simpa using h.2, h.1, .inl hms⟩
  · refine ⟨fun hmem => ?_, hfresh.ne_nil n, .inr rfl⟩
    obtain hused | ⟨k, hk, heq⟩ := hseen _ hmem
    · exact hfresh.unused n hused
    · exact Nat.ne_of_lt hk (hfresh.injective heq)

theorem ids_tabsOf {fresh : Nat → Text} {used : List Text} (hfresh : Supplies fresh used)
    (raws : List Json) (n : Nat) (seen : List Text)
    (hraws : ∀ ms, .obj ms ∈ raws → wantedId ms ∈ used)
    (hseen : ∀ id ∈ seen, id ∈ used ∨ ∃ k < n, fresh k = id) :
    ((tabsOf fresh n seen raws).map Tab.id).Nodup ∧
      ∀ t ∈ tabsOf fresh n seen raws, t.id ∉ seen ∧ t.id ≠ [] := by
  induction raws generalizing n seen with
  | nil => exact ⟨.nil, fun t ht => by cases ht⟩
  | cons raw raws ih =>
    have hrest (ms : Members) (hms : .obj ms ∈ raws) : wantedId ms ∈ used :=
      hraws ms (List.mem_cons_of_mem _ hms)
    cases raw with
    | obj ms =>
      obtain ⟨hnew, hne, horigin⟩ := givenId_cases hfresh (hraws ms (.head _)) hseen
      have hseen' : ∀ id ∈ givenId (fresh n) seen ms :: seen,
          id ∈ used ∨ ∃ k < n + 1, fresh k = id := by
        refine List.forall_mem_cons.mpr ⟨horigin.imp_right fun h => ⟨n, by omega, h⟩, ?_⟩
        exact fun id hid => (hseen id hid).imp_right fun ⟨k, hk, h⟩ => ⟨k, by omega, h⟩
      obtain ⟨hnodup, hothers⟩ := ih (n + 1) _ hrest hseen'
      refine ⟨List.nodup_cons.mpr ⟨fun hmem => ?_, hnodup⟩, List.forall_mem_cons.mpr
        ⟨⟨hnew, hne⟩, fun t ht => ⟨fun hmem => ?_, (hothers t ht).2⟩⟩⟩
      · obtain ⟨t, ht, heq⟩ := List.mem_map.mp hmem
        exact (hothers t ht).1 (heq ▸ .head _)
      · exact (hothers t ht).1 (List.mem_cons_of_mem _ hmem)
    | _ => exact ih n seen hrest hseen

theorem ids_ofTabs {fresh active : Text} {tabs : List Tab} (hfresh : fresh ≠ [])
    (htabs : ∀ t ∈ tabs, t.id ≠ []) : ∀ id ∈ (ofTabs fresh tabs active).ids, id ≠ [] := by
  have hids : (ofTabs fresh tabs active).ids =
      match tabs with
      | [] => [fresh]
      | t :: ts => (t :: ts).map Tab.id := by
    unfold ofTabs
    cases tabs <;> dsimp only <;> split <;> rfl
  rw [hids]
  cases tabs with
  | nil => simpa using hfresh
  | cons t ts =>
    intro id hid
    obtain ⟨u, hu, rfl⟩ := List.mem_map.mp hid
    exact htabs u hu

theorem unlisted_or (v : Json) :
    (v.Unlisted ∧ v.truthy = true ∧ ∃ type, v.iterate = .error (.notIterable type)) ∨
      ¬ v.Unlisted ∧ (v.truthy = true → ∃ raws, v.iterate = .ok raws) := by
  cases v with
  | bool b =>
    cases b with
    | true => exact .inl ⟨.yes, rfl, _, rfl⟩
    | false => exact .inr ⟨by rintro ⟨⟩, by rintro ⟨⟩⟩
  | int i =>
    by_cases h : i = 0
    · exact .inr ⟨fun hu => by cases hu; contradiction, by simp [truthy, h]⟩
    · exact .inl ⟨.int h, by simpa [truthy] using h, _, rfl⟩
  | float d =>
    cases h : d.isZero with
    | true => exact .inr ⟨fun hu => by cases hu; simp_all, by simp [truthy, h]⟩
    | false => exact .inl ⟨.float h, by simp [truthy, h], _, rfl⟩
  | null => exact .inr ⟨by rintro ⟨⟩, by rintro ⟨⟩⟩
  | _ => exact .inr ⟨by rintro ⟨⟩, fun _ => ⟨_, rfl⟩⟩

theorem exists_raws {ms : Members} (h : ¬ (field ms "tabs").Unlisted) :
    ∃ raws, (if (field ms "tabs").truthy then (field ms "tabs").iterate else .ok []) = .ok raws ∧
      ∀ ms', .obj ms' ∈ raws → wantedId ms' ∈ wantedIds (.obj ms) := by
  obtain ⟨hu, -⟩ | ⟨-, hlisted⟩ := unlisted_or (field ms "tabs")
  · exact absurd hu h
  · split
    · next htruthy =>
      obtain ⟨raws, hraws⟩ := hlisted htruthy
      refine ⟨raws, hraws, fun ms' hms' => ?_⟩
      have hwanted : wantedIds (.obj ms) = raws.filterMap wantedId? := by
        rw [wantedIds, member, hraws]
      rw [hwanted]
      exact List.mem_filterMap.mpr ⟨_, hms', rfl⟩
    · exact ⟨[], rfl, fun ms' hms' => by cases hms'⟩

theorem ofJson_obj (fresh : Nat → Text) (ms : Members) : ofJson fresh (.obj ms) =
    (if (field ms "tabs").truthy then (field ms "tabs").iterate else .ok []).map fun raws =>
      ofTabs (fresh (tabsOf fresh 0 [] raws).length) (tabsOf fresh 0 [] raws)
        (field ms "active_id").orEmpty := by
  rw [ofJson]
  split
  · cases (field ms "tabs").iterate <;> rfl
  · rfl

theorem ofJson_cases {fresh : Nat → Text} {v : Json} (hfresh : Supplies fresh (wantedIds v)) :
    (¬ (v.member "tabs").Unlisted ∧ ∃ s, ofJson fresh v = .ok s ∧ s.WellFormed ∧
      ∀ id ∈ s.ids, id ≠ []) ∨
    (v.member "tabs").Unlisted ∧ ∃ type, ofJson fresh v = .error (.notIterable type) := by
  cases v with
  | obj ms =>
    obtain ⟨hu, htruthy, type, herror⟩ | ⟨hu, -⟩ := unlisted_or (field ms "tabs")
    · exact .inr ⟨hu, type, by rw [ofJson_obj, if_pos htruthy, herror]; rfl⟩
    · obtain ⟨raws, hraws, hwanted⟩ := exists_raws hu
      obtain ⟨hnodup, htabs⟩ := ids_tabsOf hfresh raws 0 [] hwanted (by simp)
      refine .inl ⟨hu, _, by rw [ofJson_obj, hraws]; rfl, wellFormed_ofTabs hnodup, ?_⟩
      exact ids_ofTabs (hfresh.ne_nil _) fun t ht => (htabs t ht).2
  | _ =>
    exact .inl ⟨by rintro ⟨⟩, _, rfl, wellFormed_ofTabs .nil,
      ids_ofTabs (hfresh.ne_nil _) (by simp)⟩

end Session

namespace Disk

/-- Whatever a session file is, a session is restored from it just if no number and no truth value
stands in place of its list of tabs, unless it counts as absent.  The session has a tab, its ids are
different and not blank, and one of them is that of the active tab. -/
theorem loadSession_tolerant (d : Disk) (path : Text) {fresh : Nat → Text}
    (hfresh : Session.Supplies fresh (Session.wantedIds (d.loadValue path))) :
    ((∃ s, d.loadSession fresh path = .ok s) ↔ ¬ ((d.loadValue path).member "tabs").Unlisted) ∧
    (∀ s, d.loadSession fresh path = .ok s → s.tabs ≠ [] ∧ s.ids.Nodup ∧
      (∀ id ∈ s.ids, id ≠ []) ∧ s.activeId ∈ s.ids) ∧
    ∀ f, d.loadSession fresh path = .error f → ∃ type, f = .notIterable type := by
  unfold loadSession
  obtain ⟨hlisted, s, hs, hwf, hids⟩ | ⟨hunlisted, type, herror⟩ := Session.ofJson_cases hfresh
  · refine ⟨⟨fun _ => hlisted, fun _ => ⟨s, hs⟩⟩, fun s' hs' => ?_, fun f hf => ?_⟩
    · cases hs.symm.trans hs'
      exact ⟨List.cons_ne_nil _ _, hwf.nodup, hids, hwf.active⟩
    · cases hs.symm.trans hf
  · refine ⟨⟨fun hok => ?_, fun hlisted => absurd hunlisted hlisted⟩, fun s hs => ?_,
      fun f hf => ?_⟩
    · obtain ⟨s, hs⟩ := hok
      cases herror.symm.trans hs
    · cases herror.symm.trans hs
    · cases herror.symm.trans hf
      exact ⟨type, rfl⟩

/-- A file in which two tabs have the same id, and a third thing is no tab at all. -/
theorem loadSession_tolerant_repeated :
    let content := Text.ofString
      "\x7b\"tabs\":[\x7b\"id\":\"a\"\x7d,\x7b\"id\":\" a\"\x7d,null],\"active_id\":[]\x7d"
    let d := Disk.empty.put ["s"] (.file (content.map fun c => UInt8.ofNat c.val))
    let fresh (n : Nat) : Text := List.replicate (n + 1) '#'
    Session.Supplies fresh (Session.wantedIds (d.loadValue "/s")) ∧
      ∃ s, d.loadSession fresh "/s" = .ok s ∧ s.ids = [Text.ofString "a", Text.ofString "##"] ∧
        s.activeId ∈ s.ids := by
  have hdecode : decode .lenient (Text.ofString
      "\x7b\"tabs\":[\x7b\"id\":\"a\"\x7d,\x7b\"id\":\" a\"\x7d,null],\"active_id\":[]\x7d") =
    .ok (.obj [("tabs", .arr [.obj [("id", .str "a")], .obj [("id", .str " a")], .null]),
      ("active_id", .arr [])]) := by cbv
  intro content d fresh
  have hvalue : d.loadValue "/s" = .obj [("tabs", .arr [.obj [("id", .str "a")],
      .obj [("id", .str " a")], .null]), ("active_id", .arr [])] := by
    have hfile : d.isFile "/s" = true := by decide
    have hread : d.read "/s" = .ok (content.map fun c => UInt8.ofNat c.val) := rfl
    have htext : Text.ofUtf8? (Text.dropMark (content.map fun c => UInt8.ofNat c.val)) =
      some content := by decide +kernel
    rw [loadValue, if_pos hfile, hread]
    simp only [htext, Json.ofFileText]
    rw [hdecode]
  have hwanted : Session.wantedIds (d.loadValue "/s") =
      [Text.ofString "a", Text.ofString "a"] := by
    rw [hvalue]
    decide
  have hfresh : Session.Supplies fresh (Session.wantedIds (d.loadValue "/s")) := by
    rw [hwanted]
    exact Session.supplies_replicate (by decide)
  obtain ⟨hok, hany, -⟩ := loadSession_tolerant d "/s" hfresh
  have hlisted : ¬ ((d.loadValue "/s").member "tabs").Unlisted := by
    rw [hvalue]
    exact fun hu => by cases hu
  obtain ⟨s, hs⟩ := hok.mpr hlisted
  refine ⟨hfresh, s, hs, ?_, (hany s hs).2.2.2⟩
  rw [loadSession, hvalue] at hs
  cases hs
  decide

example : Session.ofJson (fun n => Text.ofNat n) (.obj [("tabs", .int 5)]) =
    .error (.notIterable "int") := rfl

end Disk

end JsonDesk
