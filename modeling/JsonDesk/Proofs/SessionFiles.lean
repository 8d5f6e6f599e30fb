import JsonDesk.Proofs.SavedFiles
import JsonDesk.Proofs.TabChanges
import JsonDesk.Proofs.UnpairedTexts

set_option autoImplicit false

namespace JsonDesk

open Json

namespace Json

theorem written_ne_nil (d : Double) : d.written ≠ [] := by
  cases d with
  | finite s m e h =>
    obtain ⟨c, t, hw, -⟩ := (value_double .strict (d := .finite s m e h) rfl 0).head
    have hwritten : writtenDouble (.finite s m e h) = (Double.finite s m e h).written := rfl
    rw [← hwritten, hw]
    exact List.cons_ne_nil _ _
  | infinite negative => simp [Double.written, Text.ofString]
  | nan => exact List.cons_ne_nil _ _

theorem display_ne_nil {v : Json} (h : v.truthy = true) : v.display ≠ [] := by
  cases v with
  | null => cases h
  | bool b => cases b <;> exact List.cons_ne_nil _ _
  | int i =>
    cases i with
    | ofNat n => exact (write_eq displayStyle (.int (.ofNat n))).trans_ne (Text.ofNat_ne_nil n)
    | negSucc n => exact (write_eq displayStyle (.int (.negSucc n))).trans_ne (List.cons_ne_nil _ _)
  | float d => exact (write_eq displayStyle (.float d)).trans_ne (written_ne_nil d)
  | str t =>
    rintro rfl
    cases h
  | arr vs =>
    cases vs with
    | nil => cases h
    | cons v vs => exact (write_eq displayStyle (.arr (v :: vs))).trans_ne (List.cons_ne_nil _ _)
  | obj ms =>
    cases ms with
    | nil => cases h
    | cons m ms => exact (write_eq displayStyle (.obj (m :: ms))).trans_ne (List.cons_ne_nil _ _)

theorem orText_ne_nil (v : Json) {other : Text} (h : other ≠ []) : v.orText other ≠ [] := by
  unfold orText
  split
  · next htruthy => exact display_ne_nil htruthy
  · exact h

/-- What is read back from a text in ASCII as it was written. -/
structure Storable (v : Json) : Prop where
  denotable : Denotable v
  levels : v.levels ≤ maxDepth
  distinct : Distinct v
  unpaired : Texts (fun t => ¬ t.Paired) v

theorem decode_write {v : Json} (hn : Denotable v) (hl : v.levels ≤ maxDepth) (layout : Layout) :
    decode .lenient (v.write (documentStyle layout true)) = .ok v.joined := by
  rw [write_eq]
  exact decode_of_value (value_text .lenient layout body_ascii hn 0) hl

end Json

namespace Disk

variable {d d' : Disk} {path : Text} {ms : Members} {layout : Layout}

theorem read_of_trySave_write
    (h : (trySave path ((Json.obj ms).write (documentStyle layout true))).run.run d = (.ok true, d')) :
    d'.read path =
      .ok (((Json.obj ms).write (documentStyle layout true)).flatMap CodePoint.utf8) :=
  read_of_saveText (clean_write layout _) (saveText_of_trySave h)

theorem loadValue_of_write (hn : Denotable (.obj ms)) (hl : (Json.obj ms).levels ≤ maxDepth)
    (h : d.read path =
      .ok (((Json.obj ms).write (documentStyle layout true)).flatMap CodePoint.utf8)) :
    d.loadValue path = (Json.obj ms).joined := by
  obtain ⟨rest, hfirst⟩ : ∃ rest, (Json.obj ms).write (documentStyle layout true) =
      CodePoint.ofChar '\x7b' :: rest := by
    rw [write_eq]
    cases ms <;> exact ⟨_, rfl⟩
  rw [loadValue_of_read (clean_write layout _) hfirst h, ofFileText, decode_write hn hl]

theorem loadValue_of_storable (hstorable : Storable (.obj ms))
    (h : d.read path =
      .ok (((Json.obj ms).write (documentStyle layout true)).flatMap CodePoint.utf8)) :
    d.loadValue path = .obj ms := by
  rw [loadValue_of_write hstorable.denotable hstorable.levels h,
    joined_eq_self hstorable.distinct hstorable.unpaired]

end Disk

namespace Session

variable {s s₀ : Session} {fresh : Nat → Text}

/-- An id that is read from a file as it was written there. -/
structure Kept (id : Text) : Prop where
  ne_nil : id ≠ []
  stripped : id.strip = id

/-- No low surrogate follows a high one. -/
def Unpaired (s : Session) : Prop :=
  ∀ t ∈ s.tabs, ¬ t.id.Paired ∧ ¬ t.name.Paired ∧ ¬ t.content.Paired

theorem not_paired_of_any {t : Text} (h : t.any CodePoint.isSurrogate = false) : ¬ t.Paired :=
  not_paired_of_clean (by simpa [Clean] using h)

theorem unpaired_of_clean (h : ∀ t ∈ s.tabs, t.id.any CodePoint.isSurrogate = false ∧
    t.name.any CodePoint.isSurrogate = false ∧ t.content.any CodePoint.isSurrogate = false) :
    s.Unpaired := fun t ht =>
  ⟨not_paired_of_any (h t ht).1, not_paired_of_any (h t ht).2.1, not_paired_of_any (h t ht).2.2⟩

/-! ### The text of a session -/

theorem denotable_toMembers (s : Session) : Denotable (.obj s.toMembers) := by
  constructor <;> simp [toMembers, Tab.toMembers]

theorem levels_toMembers (s : Session) : (Json.obj s.toMembers).levels ≤ maxDepth := by
  have hitems : itemLevels (s.tabs.map fun t => .obj t.toMembers) ≤ 1 := by
    induction s.tabs with
    | nil => exact Nat.zero_le _
    | cons t ts ih => simpa [itemLevels, levels, memberLevels, Tab.toMembers] using ih
  simp only [toMembers, levels, memberLevels, maxDepth]
  omega

theorem distinct_toMembers (s : Session) : Distinct (.obj s.toMembers) := by
  have hsession : (Members.names s.toMembers).Nodup :=
    show [Text.ofString "tabs", Text.ofString "active_id"].Nodup by decide
  have htab (t : Tab) : (Members.names t.toMembers).Nodup :=
    show [Text.ofString "id", Text.ofString "name", Text.ofString "content"].Nodup by decide
  intro ms hms
  rcases inside_obj.mp hms with heq | ⟨m, hm, hin⟩
  · cases heq
    exact hsession
  · rcases List.mem_cons.mp hm with rfl | hm
    · obtain ⟨t, -, hin⟩ : ∃ t ∈ s.tabs, Inside (.obj ms) (.obj t.toMembers) := by simpa using hin
      have heq : ms = t.toMembers := by simpa [Tab.toMembers] using hin
      exact heq ▸ htab t
    · rw [List.mem_singleton] at hm
      subst hm
      simp at hin

theorem unpaired_toMembers (h : s.Unpaired) (hactive : s.activeId ∈ s.ids) :
    Texts (fun u => ¬ u.Paired) (.obj s.toMembers) := by
  have hname (name : String) : ¬ (Text.ofString name).Paired :=
    not_paired_of_clean (clean_ofString name)
  have htab : ∀ t ∈ s.tabs, Texts (fun u => ¬ u.Paired) (.obj t.toMembers) := by
    intro t ht
    obtain ⟨hid, htitle, hcontent⟩ := h t ht
    simp [texts_obj, Tab.toMembers, texts_str, hname, hid, htitle, hcontent]
  obtain ⟨t, ht, hid⟩ := List.mem_map.mp hactive
  have hactive : ¬ s.activeId.Paired := hid ▸ (h t ht).1
  simpa [texts_obj, texts_arr, toMembers, texts_str, hname, hactive] using htab

theorem storable_toMembers (h : s.Unpaired) (hactive : s.activeId ∈ s.ids) :
    Storable (.obj s.toMembers) :=
  ⟨denotable_toMembers s, levels_toMembers s, distinct_toMembers s, unpaired_toMembers h hactive⟩

/-! ### A session is read as it was -/

theorem tabsOf_toMembers {ts : List Tab} (n : Nat) (seen : List Text)
    (hnodup : (ts.map Tab.id).Nodup) (hseen : ∀ t ∈ ts, t.id ∉ seen)
    (hts : ∀ t ∈ ts, Kept t.id ∧ t.name ≠ []) :
    tabsOf fresh n seen (ts.map fun t => .obj t.toMembers) = ts := by
  induction ts generalizing n seen with
  | nil => rfl
  | cons t ts ih =>
    rw [List.map_cons, List.nodup_cons] at hnodup
    rw [List.forall_mem_cons] at hseen hts
    have hid : (field t.toMembers "id").orEmpty.strip = t.id := by
      show (Json.str t.id).orEmpty.strip = t.id
      rw [orEmpty_str, hts.1.1.stripped]
    have hname : (field t.toMembers "name").orText untitled = t.name := orText_str hts.1.2 _
    have hcontent : (field t.toMembers "content").orEmpty = t.content := orEmpty_str _
    have hrest := ih (n + 1) (t.id :: seen) hnodup.2 (fun u hu hmem => ?_) hts.2
    · rw [List.map_cons, tabsOf]
      simp only [hid, hname, hcontent]
      rw [if_pos ⟨hts.1.1.ne_nil, by simpa using hseen.1⟩, hrest]
    · rcases List.mem_cons.mp hmem with heq | hmem
      · exact hnodup.1 (heq ▸ List.mem_map_of_mem hu)
      · exact hseen.2 u hu hmem

theorem ofTabs_tabs (h : s.activeId ∈ s.ids) (fresh : Text) :
    ofTabs fresh s.tabs s.activeId = s := by
  obtain ⟨t, ht⟩ := exists_find? h
  obtain ⟨first, others, active⟩ := s
  simp only [tabs, ofTabs]
  rw [ht]

theorem ofJson_toMembers (hs : s.WellFormed) (hnamed : s.Named fun id name => Kept id ∧ name ≠ []) :
    ofJson fresh (.obj s.toMembers) = .ok s := by
  have htabs : tabsOf fresh 0 [] (s.tabs.map fun t => .obj t.toMembers) = s.tabs :=
    tabsOf_toMembers 0 [] hs.nodup (by simp) hnamed
  have hactive : (field s.toMembers "active_id").orEmpty = s.activeId := orEmpty_str _
  have hraws : field s.toMembers "tabs" = .arr (s.tabs.map fun t => .obj t.toMembers) := rfl
  have htruthy : (field s.toMembers "tabs").truthy = true := rfl
  rw [ofJson_obj, if_pos htruthy, hraws, iterate, Except.map, htabs, hactive, ofTabs_tabs hs.active]

/-! ### Where the ids and names of a loaded session come from -/

theorem tabs_ofTabs (fresh active : Text) (tabs : List Tab) :
    (ofTabs fresh tabs active).tabs = if tabs = [] then [.blank fresh] else tabs := by
  unfold ofTabs
  cases tabs <;> dsimp only <;> split <;> rfl

/-- An id is one that a record asks for, or one of the new ones up to some number. -/
def Given (fresh : Nat → Text) (used : List Text) (limit : Nat) (id : Text) : Prop :=
  (id ∈ used ∧ id ≠ []) ∨ ∃ k < limit, id = fresh k

theorem Given.elim {used : List Text} {limit : Nat} {id : Text} {Q : Text → Prop}
    (h : Given fresh used limit id) (hused : ∀ id ∈ used, id ≠ [] → Q id) (hfresh : ∀ k, Q (fresh k)) :
    Q id := by
  rcases h with ⟨hmem, hne⟩ | ⟨k, -, rfl⟩
  · exact hused id hmem hne
  · exact hfresh k

theorem stripped_wantedIds (v : Json) : ∀ id ∈ wantedIds v, id.strip = id := by
  intro id hid
  unfold wantedIds at hid
  split at hid
  · obtain ⟨raw, -, hwanted⟩ := List.mem_filterMap.mp hid
    cases raw with
    | obj ms =>
      cases hwanted
      exact Text.strip_strip _
    | _ => cases hwanted
  · cases hid

theorem given_tabsOf {used : List Text} (raws : List Json) (n : Nat) (seen : List Text)
    (hraws : ∀ ms, .obj ms ∈ raws → wantedId ms ∈ used) :
    ∀ t ∈ tabsOf fresh n seen raws,
      Given fresh used (n + (tabsOf fresh n seen raws).length) t.id ∧ t.name ≠ [] := by
  induction raws generalizing n seen with
  | nil => simp [tabsOf]
  | cons raw raws ih =>
    have hrest (ms : Members) (hms : .obj ms ∈ raws) : wantedId ms ∈ used :=
      hraws ms (List.mem_cons_of_mem _ hms)
    cases raw with
    | obj ms =>
      have hthis := hraws ms (.head _)
      have hothers := ih (n + 1) (givenId (fresh n) seen ms :: seen) hrest
      rw [tabsOf]
      refine List.forall_mem_cons.mpr ⟨⟨?_, orText_ne_nil _ untitled_ne_nil⟩, fun t ht => ?_⟩
      · dsimp only
        split
        · next h => exact .inl ⟨hthis, h.1⟩
        · exact .inr ⟨n, by simp, rfl⟩
      · obtain ⟨hgiven, hname⟩ := hothers t ht
        refine ⟨hgiven.imp_right fun ⟨k, hk, hid⟩ => ⟨k, ?_, hid⟩, hname⟩
        show k < n + ((tabsOf fresh (n + 1) (givenId (fresh n) seen ms :: seen) raws).length + 1)
        omega
    | _ => exact ih n seen hrest

theorem given_ofTabs {used : List Text} {tabs : List Tab}
    (h : ∀ t ∈ tabs, Given fresh used tabs.length t.id ∧ t.name ≠ []) (active : Text) :
    ∀ t ∈ (ofTabs (fresh tabs.length) tabs active).tabs,
      Given fresh used (ofTabs (fresh tabs.length) tabs active).tabs.length t.id ∧ t.name ≠ [] := by
  rw [tabs_ofTabs]
  split
  · next hnil =>
    subst hnil
    exact List.forall_mem_singleton.mpr ⟨.inr ⟨0, Nat.zero_lt_one, rfl⟩, untitled_ne_nil⟩
  · exact h

theorem given_ofJson {v : Json} (h : ofJson fresh v = .ok s) :
    ∀ t ∈ s.tabs, Given fresh (wantedIds v) s.tabs.length t.id ∧ t.name ≠ [] := by
  cases v with
  | obj ms =>
    rw [ofJson_obj] at h
    have hlisted : ¬ (field ms "tabs").Unlisted := by
      intro hu
      obtain ⟨-, htruthy, type, herror⟩ | ⟨hnot, -⟩ := unlisted_or (field ms "tabs")
      · rw [if_pos htruthy, herror] at h
        cases h
      · exact hnot hu
    obtain ⟨raws, hraws, hwanted⟩ := exists_raws hlisted
    rw [hraws] at h
    cases h
    have hgiven : ∀ t ∈ tabsOf fresh 0 [] raws,
        Given fresh (wantedIds (.obj ms)) (0 + (tabsOf fresh 0 [] raws).length) t.id ∧ t.name ≠ [] :=
      given_tabsOf raws 0 [] hwanted
    rw [Nat.zero_add] at hgiven
    exact given_ofTabs hgiven _
  | _ =>
    cases h
    have hnone : ∀ t ∈ ([] : List Tab), Given fresh [] 0 t.id ∧ t.name ≠ [] := by simp
    exact given_ofTabs hnone []

/-! ### Sessions that are saved -/

theorem Reaches.named (h : Reaches s₀ s) (hs : s₀.WellFormed)
    (hnamed : s₀.Named fun _ name => name ≠ []) : s.Named fun _ name => name ≠ [] := by
  induction h with
  | start => exact hnamed
  | step c hreaches _ ih =>
    exact named_apply ih (hreaches.wellFormed hs).nodup c (fun _ _ _ _ hne => hne)
      fun _ _ hne => hne

end Session

namespace Disk

open Session

variable {s : Session} {d d' : Disk} {path : Text} {fresh : Nat → Text}

theorem read_of_saveSession (h : (saveSession path s).run.run d = (.ok true, d')) :
    d'.read path = .ok (s.fileText.flatMap CodePoint.utf8) :=
  read_of_trySave_write h

theorem loadSession_of_read (hs : s.WellFormed)
    (hnamed : s.Named fun id name => Kept id ∧ name ≠ []) (hunpaired : s.Unpaired)
    (h : d.read path = .ok (s.fileText.flatMap CodePoint.utf8)) :
    d.loadSession fresh path = .ok s := by
  rw [loadSession, loadValue_of_storable (storable_toMembers hunpaired hs.active) h]
  exact ofJson_toMembers hs hnamed

/-- However a session that was made of a value is changed, it is loaded as it was saved, unless a
pair of surrogates stands in it or an id that was added is blank at an end. -/
theorem loadSession_of_saveSession {v : Json} {s₀ : Session} (hfresh : Supplies fresh (wantedIds v))
    (hstrip : ∀ k, (fresh k).strip = fresh k) (h₀ : ofJson fresh v = .ok s₀) (h : Reaches s₀ s)
    (hnew : ∀ id ∈ s.ids, id ∉ s₀.ids → Kept id) (hunpaired : s.Unpaired)
    (hsave : (saveSession path s).run.run d = (.ok true, d')) (fresh' : Nat → Text) :
    d'.loadSession fresh' path = .ok s := by
  obtain ⟨-, s₁, hs₁, hwellFormed, -⟩ | ⟨-, type, herror⟩ := ofJson_cases hfresh
  · cases h₀.symm.trans hs₁
    have hgiven := given_ofJson h₀
    have hkept : ∀ id ∈ s₀.ids, Kept id := by
      intro id hid
      obtain ⟨t, ht, rfl⟩ := List.mem_map.mp hid
      exact (hgiven t ht).1.elim (fun id hid hne => ⟨hne, stripped_wantedIds v id hid⟩)
        fun k => ⟨hfresh.ne_nil k, hstrip k⟩
    have hnamed := h.named hwellFormed fun t ht => (hgiven t ht).2
    refine loadSession_of_read (h.wellFormed hwellFormed) (fun t ht => ⟨?_, hnamed t ht⟩) hunpaired
      (read_of_saveSession hsave)
    have hid : t.id ∈ s.ids := List.mem_map_of_mem ht
    by_cases hold : t.id ∈ s₀.ids
    · exact hkept _ hold
    · exact hnew _ hid hold
  · cases h₀.symm.trans herror

/-! ### Settings -/

theorem denotable_default : Denotable (.obj Settings.default.toMembers) := by
  have hbig : 10 ^ 3 ≤ 10 ^ maxDigits := Nat.pow_le_pow_right (by decide) (by decide)
  constructor
  · suffices 2 < 10 ^ maxDigits ∧ 11 < 10 ^ maxDigits ∧ 300 < 10 ^ maxDigits by
      simpa [Settings.toMembers, Settings.default] using this
    omega
  · simp [Settings.toMembers]

theorem storable_settings {settings : Settings} (hnumbers : Denotable (.obj settings.toMembers)) :
    Storable (.obj settings.toMembers) := by
  have hname (name : String) : ¬ (Text.ofString name).Paired :=
    not_paired_of_clean (clean_ofString name)
  have htheme : ¬ settings.theme.name.Paired := by
    cases settings.theme <;> exact hname _
  refine ⟨hnumbers, ?_, ?_, ?_⟩
  · simp [Settings.toMembers, levels, memberLevels, maxDepth]
  · intro ms hms
    have heq : ms = settings.toMembers := by simpa [Settings.toMembers] using hms
    rw [heq]
    show [Text.ofString "indent_width", Text.ofString "theme", Text.ofString "font_size",
      Text.ofString "live_feedback_delay_ms"].Nodup
    decide
  · simp [texts_obj, Settings.toMembers, texts_str, texts_int, hname, htheme]

theorem loadSettings_of_saveSettings {settings : Settings}
    (hnumbers : Denotable (.obj settings.toMembers))
    (h : (saveSettings path settings).run.run d = (.ok true, d')) :
    ∃ settings', d'.loadSettings path = .ok settings' := by
  rw [loadSettings, loadValue_of_storable (storable_settings hnumbers) (read_of_trySave_write h)]
  exact ⟨_, rfl⟩

end Disk

end JsonDesk
