import JsonDesk.Session
import Mathlib.Data.List.Nodup

/-!
A session under change.  Whatever is done to it, one tab after the other, no two tabs have the same
id and the active tab is among them; a change makes of the tab it names what it says, and leaves the
others as they are and in their order.
-/

set_option autoImplicit false

namespace JsonDesk.Session

def ids (s : Session) : List Text := s.tabs.map Tab.id

/-- No two tabs have the same id, and one of them is the active one. -/
structure WellFormed (s : Session) : Prop where
  nodup : s.ids.Nodup
  active : s.activeId ∈ s.ids

/-- What can be done to a session.  A new tab comes with the id that was made for it. -/
inductive Change
  | activate (id : Text)
  | add (id name content : Text)
  | close (id : Text)
  | rename (id name : Text)
  | update (id content : Text)

namespace Change

def named : Change → Text
  | activate id | add id _ _ | close id | rename id _ | update id _ => id

def isAdd : Change → Bool
  | add .. => true
  | _ => false

end Change

def apply (s : Session) : Change → Session
  | .activate id => s.activate id
  | .add id name content => s.add id name content
  | .close id => s.close id
  | .rename id name => (s.rename id name).getD s
  | .update id content => s.update id content

/-- A new tab has an id that no other tab has. -/
def Permits (s : Session) (c : Change) : Prop := c.isAdd = true → c.named ∉ s.ids

/-- The sessions that any number of changes lead to. -/
inductive Reaches (s₀ : Session) : Session → Prop
  | start : Reaches s₀ s₀
  | step {s : Session} (c : Change) : Reaches s₀ s → s.Permits c → Reaches s₀ (s.apply c)

inductive Does (s : Session) : Change → Session → Prop
  /-- A tab that is not there is not changed. -/
  | nothing {c : Change} : c.isAdd = false → c.named ∉ s.ids → Does s c s
  | activate {t : Tab} : t ∈ s.tabs → Does s (.activate t.id) { s with activeId := t.id }
  | add {t : Tab} {name : Text} {s' : Session} : (name.strip ≠ [] → t.name = name.strip) →
    s'.tabs = s.tabs ++ [t] → s'.activeId = t.id → Does s (.add t.id name t.content) s'
  | closeOnly {t : Tab} {s' : Session} : s.tabs = [t] →
    s'.tabs = [{ t with name := untitled, content := [] }] → s'.activeId = t.id →
    Does s (.close t.id) s'
  | closeOther {front back : List Tab} {t : Tab} {s' : Session} : s.tabs = front ++ t :: back →
    t.id ≠ s.activeId → s'.tabs = front ++ back → s'.activeId = s.activeId →
    Does s (.close t.id) s'
  /-- The tab that followed the active one takes its place. -/
  | closeActive {front back : List Tab} {t next : Tab} {s' : Session} :
    s.tabs = front ++ t :: next :: back → t.id = s.activeId → s'.tabs = front ++ next :: back →
    s'.activeId = next.id → Does s (.close t.id) s'
  /-- If none followed, the new last one does. -/
  | closeLast {front : List Tab} {last t : Tab} {s' : Session} : s.tabs = front ++ [last, t] →
    t.id = s.activeId → s'.tabs = front ++ [last] → s'.activeId = last.id →
    Does s (.close t.id) s'
  | rename {front back : List Tab} {t : Tab} {name : Text} {s' : Session} :
    s.tabs = front ++ t :: back → name.strip ≠ [] →
    s'.tabs = front ++ { t with name := name.strip } :: back → s'.activeId = s.activeId →
    Does s (.rename t.id name) s'
  /-- A blank name is refused. -/
  | keepName {t : Tab} {name : Text} : t ∈ s.tabs → name.strip = [] →
    Does s (.rename t.id name) s
  | update {front back : List Tab} {t : Tab} {content : Text} {s' : Session} :
    s.tabs = front ++ t :: back → s'.tabs = front ++ { t with content := content } :: back →
    s'.activeId = s.activeId → Does s (.update t.id content) s'

variable {s s' : Session} {c : Change}

theorem tabs_inj (htabs : s'.tabs = s.tabs) (hactive : s'.activeId = s.activeId) : s' = s := by
  obtain ⟨first, others, active⟩ := s
  obtain ⟨first', others', active'⟩ := s'
  simp only [tabs, List.cons.injEq] at htabs
  obtain ⟨rfl, rfl⟩ := htabs
  cases hactive
  rfl

/-! ### Looking a tab up -/

theorem find?_eq_none_iff {id : Text} : s.find? id = none ↔ id ∉ s.ids := by
  simp [find?, ids]

theorem mem_of_find? {id : Text} {t : Tab} (h : s.find? id = some t) : t ∈ s.tabs ∧ t.id = id := by
  have hid := List.find?_some h
  exact ⟨List.mem_of_find?_eq_some h, by simpa using hid⟩

theorem exists_find? {id : Text} (h : id ∈ s.ids) : ∃ t, s.find? id = some t := by
  rw [← Option.isSome_iff_exists, ← Option.ne_none_iff_isSome]
  exact fun hnone => find?_eq_none_iff.mp hnone h

theorem exists_split {id : Text} (h : id ∈ s.ids) :
    ∃ front t back, s.tabs = front ++ t :: back ∧ t.id = id := by
  obtain ⟨t, ht, rfl⟩ := List.mem_map.mp h
  obtain ⟨front, back, hsplit⟩ := List.append_of_mem ht
  exact ⟨front, t, back, hsplit, rfl⟩

theorem activeTab_of_active (h : s.activeId ∈ s.ids) :
    s.activeTab ∈ s.tabs ∧ s.activeTab.id = s.activeId := by
  obtain ⟨t, ht⟩ := exists_find? h
  rw [activeTab, ht]
  exact mem_of_find? ht

section

variable {front back : List Tab} {t : Tab}

theorem ids_ne_of_split (h : s.ids.Nodup) (hsplit : s.tabs = front ++ t :: back) :
    ∀ u ∈ front ++ back, u.id ≠ t.id := by
  rw [ids, hsplit, (List.perm_middle.map Tab.id).nodup_iff, List.map_cons, List.nodup_cons] at h
  exact fun u hu heq => h.1 (heq ▸ List.mem_map_of_mem hu)

theorem filter_others {id : Text} {middle : List Tab} (hmiddle : ∀ u ∈ middle, u.id = id)
    (hother : ∀ u ∈ front ++ back, u.id ≠ id) :
    (front ++ (middle ++ back)).filter (fun u => u.id ≠ id) = front ++ back := by
  have hnone : middle.filter (fun u => u.id ≠ id) = [] := by
    simpa using hmiddle
  rw [List.filter_append, List.filter_append, hnone, List.nil_append, ← List.filter_append]
  exact List.filter_eq_self.mpr fun u hu => by simpa using hother u hu

/-! ### The single changes -/

theorem tabs_modify (s : Session) (id : Text) (f : Tab → Tab) :
    (s.modify id f).tabs = modifyTab id f s.tabs ∧ (s.modify id f).activeId = s.activeId := by
  unfold modify
  split
  · next h => exact ⟨by simp [tabs, modifyTab, h], rfl⟩
  · next h => exact ⟨by simp [tabs, modifyTab, h], rfl⟩

theorem modifyTab_of_not_mem {id : Text} {f : Tab → Tab} {ts : List Tab}
    (h : ∀ t ∈ ts, t.id ≠ id) : modifyTab id f ts = ts := by
  induction ts with
  | nil => rfl
  | cons t ts ih =>
    rw [List.forall_mem_cons] at h
    rw [modifyTab, if_neg h.1, ih h.2]

theorem modifyTab_of_split {f : Tab → Tab} (h : ∀ u ∈ front, u.id ≠ t.id) :
    modifyTab t.id f (front ++ t :: back) = front ++ f t :: back := by
  induction front with
  | nil => exact if_pos rfl
  | cons u front ih =>
    rw [List.forall_mem_cons] at h
    rw [List.cons_append, modifyTab, if_neg h.1, ih h.2, List.cons_append]

theorem modify_of_not_mem {id : Text} {f : Tab → Tab} (h : id ∉ s.ids) : s.modify id f = s := by
  obtain ⟨htabs, hactive⟩ := tabs_modify s id f
  refine tabs_inj (htabs.trans (modifyTab_of_not_mem fun t ht heq => ?_)) hactive
  exact h (heq ▸ List.mem_map_of_mem ht)

theorem tabs_modify_of_split {f : Tab → Tab} (h : s.ids.Nodup)
    (hsplit : s.tabs = front ++ t :: back) :
    (s.modify t.id f).tabs = front ++ f t :: back := by
  rw [(tabs_modify s t.id f).1, hsplit]
  exact modifyTab_of_split fun u hu => ids_ne_of_split h hsplit u (List.mem_append_left _ hu)

theorem indexOf?_of_split (h : s.ids.Nodup) (hsplit : s.tabs = front ++ t :: back) :
    s.indexOf? t.id = some front.length := by
  have hfront : ∀ u ∈ front, u.id ≠ t.id :=
    fun u hu => ids_ne_of_split h hsplit u (List.mem_append_left _ hu)
  have hnone : front.findIdx? (fun u => u.id = t.id) = none :=
    List.findIdx?_eq_none_iff.mpr (by simpa using hfront)
  rw [indexOf?, hsplit, List.findIdx?_append, hnone, List.findIdx?_cons]
  simp

theorem close_of_split (h : s.ids.Nodup) (hsplit : s.tabs = front ++ t :: back)
    (hrest : front ++ back ≠ []) :
    (s.close t.id).tabs = front ++ back ∧
      (t.id ≠ s.activeId → (s.close t.id).activeId = s.activeId) ∧
      (t.id = s.activeId → ∃ next,
        (front ++ back)[min front.length ((front ++ back).length - 1)]? = some next ∧
          (s.close t.id).activeId = next.id) := by
  have herase : s.tabs.eraseIdx front.length = front ++ back := by
    rw [hsplit, List.eraseIdx_append_of_length_le (Nat.le_refl _), Nat.sub_self]
    rfl
  rw [close, indexOf?_of_split h hsplit]
  dsimp only
  rw [herase]
  cases hcons : front ++ back with
  | nil => exact absurd hcons hrest
  | cons u us =>
    refine ⟨rfl, fun hne => if_neg hne, fun heq => ⟨(u :: us).getD (min front.length us.length) u,
      ?_, if_pos heq⟩⟩
    have hplace : min front.length us.length < (u :: us).length :=
      Nat.lt_succ_of_le (Nat.min_le_right _ _)
    rw [List.length_cons, Nat.add_sub_cancel, List.getD_eq_getElem?_getD,
      List.getElem?_eq_getElem hplace, Option.getD_some]

theorem close_of_only (honly : s.tabs = [t]) :
    (s.close t.id).tabs = [.blank t.id] ∧ (s.close t.id).activeId = t.id := by
  obtain ⟨first, others, active⟩ := s
  simp only [tabs, List.cons.injEq] at honly
  obtain ⟨rfl, rfl⟩ := honly
  simp [close, indexOf?, tabs, List.findIdx?_cons]

end

theorem does_activate (s : Session) (id : Text) : Does s (.activate id) (s.activate id) := by
  unfold activate
  split
  · next t ht =>
    obtain ⟨hmem, rfl⟩ := mem_of_find? ht
    exact .activate hmem
  · next h => exact .nothing rfl (find?_eq_none_iff.mp h)

theorem does_add (s : Session) (id name content : Text) :
    Does s (.add id name content) (s.add id name content) := by
  let named : Tab :=
    ⟨id, if name.strip = [] then untitledName (s.tabs.map (·.name)) else name.strip, content⟩
  exact .add (t := named) (fun h => if_neg h) rfl rfl

theorem close_of_not_mem {id : Text} (h : id ∉ s.ids) : s.close id = s := by
  have hnone : s.indexOf? id = none := by
    refine List.findIdx?_eq_none_iff.mpr fun t ht => decide_eq_false fun heq => ?_
    exact h (heq ▸ List.mem_map_of_mem ht)
  rw [close, hnone]

theorem does_close (h : s.ids.Nodup) (id : Text) : Does s (.close id) (s.close id) := by
  by_cases hid : id ∈ s.ids
  · obtain ⟨front, t, back, hsplit, rfl⟩ := exists_split hid
    by_cases hrest : front ++ back = []
    · obtain ⟨rfl, rfl⟩ := List.append_eq_nil_iff.mp hrest
      obtain ⟨htabs, hactive⟩ := close_of_only hsplit
      exact .closeOnly hsplit htabs hactive
    · obtain ⟨htabs, hother, hnext⟩ := close_of_split h hsplit hrest
      by_cases hactive : t.id = s.activeId
      · obtain ⟨next, hget, hid⟩ := hnext hactive
        -- the tab at the place of the closed one, if there is any, came after it
        cases back with
        | cons follower back =>
          have hfollower : next = follower := by simpa [eq_comm] using hget
          exact .closeActive hsplit hactive htabs (hfollower ▸ hid)
        | nil =>
          obtain ⟨front, last, rfl⟩ :=
            (List.eq_nil_or_concat' front).resolve_left (by simpa using hrest)
          have hlast : next = last := by simpa [eq_comm] using hget
          exact .closeLast (by simpa using hsplit) hactive (by simpa using htabs) (hlast ▸ hid)
      · exact .closeOther hsplit hactive htabs (hother hactive)
  · rw [close_of_not_mem hid]
    exact .nothing rfl hid

theorem does_rename (h : s.ids.Nodup) (id name : Text) :
    Does s (.rename id name) ((s.rename id name).getD s) := by
  by_cases hid : id ∈ s.ids
  · obtain ⟨u, hu⟩ := exists_find? hid
    rw [rename, hu]
    obtain ⟨front, t, back, hsplit, rfl⟩ := exists_split hid
    dsimp only
    split
    · next hblank =>
      exact .keepName (hsplit ▸ List.mem_append_right _ (.head _)) hblank
    · next hname =>
      exact .rename hsplit hname (tabs_modify_of_split h hsplit) (tabs_modify _ _ _).2
  · rw [rename, find?_eq_none_iff.mpr hid]
    exact .nothing rfl hid

theorem does_update (h : s.ids.Nodup) (id content : Text) :
    Does s (.update id content) (s.update id content) := by
  by_cases hid : id ∈ s.ids
  · obtain ⟨front, t, back, hsplit, rfl⟩ := exists_split hid
    exact .update hsplit (tabs_modify_of_split h hsplit) (tabs_modify _ _ _).2
  · rw [update, modify_of_not_mem hid]
    exact .nothing rfl hid

/-- The step lemma: every change does what it has to. -/
theorem does_apply (h : s.ids.Nodup) (c : Change) : Does s c (s.apply c) := by
  cases c with
  | activate id => exact does_activate s id
  | add id name content => exact does_add s id name content
  | close id => exact does_close h id
  | rename id name => exact does_rename h id name
  | update id content => exact does_update h id content

/-! ### What every change keeps -/

theorem Does.others (h : Does s c s') (hs : s.ids.Nodup) (hc : s.Permits c) :
    s'.tabs.filter (fun t => t.id ≠ c.named) = s.tabs.filter (fun t => t.id ≠ c.named) := by
  have hsame {front back : List Tab} {t : Tab} (now : List Tab)
      (hsplit : s.tabs = front ++ t :: back) (hnow : ∀ u ∈ now, u.id = t.id)
      (htabs : s'.tabs = front ++ (now ++ back)) :
      s'.tabs.filter (fun u => u.id ≠ t.id) = s.tabs.filter (fun u => u.id ≠ t.id) := by
    have hother := ids_ne_of_split hs hsplit
    rw [htabs, hsplit, filter_others hnow hother]
    exact (filter_others (List.forall_mem_singleton.mpr rfl) hother).symm
  cases h with
  | nothing => rfl
  | activate => rfl
  | keepName => rfl
  | add _ htabs =>
    rw [htabs, List.filter_append]
    simp [Change.named]
  | closeOnly hsplit htabs =>
    rw [hsplit, htabs]
    simp [Change.named]
  | closeOther hsplit _ htabs => exact hsame [] hsplit (by simp) htabs
  | closeActive hsplit _ htabs => exact hsame [] hsplit (by simp) htabs
  | closeLast hsplit _ htabs =>
    have hbehind := hsplit.trans (List.append_cons _ _ _)
    exact hsame [] hbehind (by simp) (by simpa using htabs)
  | rename hsplit _ htabs => exact hsame [_] hsplit (by simp) htabs
  | update hsplit htabs => exact hsame [_] hsplit (by simp) htabs

theorem WellFormed.of_ids_eq (h : s.WellFormed) (hids : s'.ids = s.ids)
    (hactive : s'.activeId ∈ s.ids) : s'.WellFormed :=
  ⟨hids ▸ h.nodup, hids ▸ hactive⟩

theorem Does.wellFormed (h : Does s c s') (hs : s.WellFormed) (hc : s.Permits c) :
    s'.WellFormed := by
  have hclosed {front back : List Tab} {t : Tab} (hsplit : s.tabs = front ++ t :: back)
      (htabs : s'.tabs = front ++ back) (hactive : s'.activeId ∈ (front ++ back).map Tab.id) :
      s'.WellFormed := by
    have hnodup := hs.nodup
    rw [ids, hsplit] at hnodup
    refine ⟨?_, by rwa [ids, htabs]⟩
    rw [ids, htabs]
    exact hnodup.sublist (((List.sublist_cons_self t back).append_left front).map Tab.id)
  cases h with
  | nothing => exact hs
  | keepName => exact hs
  | activate ht => exact hs.of_ids_eq rfl (List.mem_map_of_mem ht)
  | @add t _ _ _ htabs hactive =>
    have hids : s'.ids = s.ids ++ [t.id] := by rw [ids, htabs, List.map_append]; rfl
    refine ⟨?_, by simp [hids, hactive]⟩
    rw [hids]
    have hnew : t.id ∉ s.ids := hc rfl
    exact hs.nodup.append (List.nodup_singleton _) (by simpa using hnew)
  | closeOnly hsplit htabs hactive =>
    refine hs.of_ids_eq (by simp [ids, hsplit, htabs]) ?_
    simp [ids, hsplit, hactive]
  | closeOther hsplit hother htabs hactive =>
    refine hclosed hsplit htabs ?_
    have hmem := hs.active
    rw [ids, hsplit] at hmem
    rw [hactive]
    simpa [Ne.symm hother] using hmem
  | closeActive hsplit _ htabs hactive =>
    exact hclosed hsplit htabs (by simp [hactive])
  | closeLast hsplit _ htabs hactive =>
    have hbehind := hsplit.trans (List.append_cons _ _ _)
    exact hclosed hbehind (by simpa using htabs) (by simp [hactive])
  | rename hsplit _ htabs hactive =>
    exact hs.of_ids_eq (by simp [ids, hsplit, htabs]) (hactive ▸ hs.active)
  | update hsplit htabs hactive =>
    exact hs.of_ids_eq (by simp [ids, hsplit, htabs]) (hactive ▸ hs.active)

theorem wellFormed_chosen (hs : s.ids.Nodup) : WellFormed (match s.find? s.activeId with
    | some _ => s
    | none => { s with activeId := s.first.id }) := by
  cases hfind : s.find? s.activeId with
  | some t =>
    refine ⟨hs, ?_⟩
    by_contra hnone
    simp [find?_eq_none_iff.mpr hnone] at hfind
  | none => exact ⟨hs, .head _⟩

theorem wellFormed_ofTabs {fresh active : Text} {tabs : List Tab} (h : (tabs.map Tab.id).Nodup) :
    (ofTabs fresh tabs active).WellFormed := by
  cases tabs with
  | nil => exact wellFormed_chosen (s := ⟨.blank fresh, [], active⟩) (List.nodup_singleton _)
  | cons t ts => exact wellFormed_chosen (s := ⟨t, ts, active⟩) h

/-- The run lemma: a well-formed session stays so, whatever is done to it. -/
theorem Reaches.wellFormed {s₀ : Session} (h : Reaches s₀ s) (h₀ : s₀.WellFormed) :
    s.WellFormed := by
  induction h with
  | start => exact h₀
  | step c _ hc ih => exact (does_apply ih.nodup c).wellFormed ih hc

/-- However a session is changed, its tabs have different ids, and the active one is among them.
Each change does what it has to for the tab that it names, and leaves the others as they are and in
their order. -/
theorem changes_kept_apart {fresh active : Text} {tabs : List Tab}
    (hids : (tabs.map Tab.id).Nodup) (h : Reaches (ofTabs fresh tabs active) s) :
    s.tabs ≠ [] ∧ s.ids.Nodup ∧ s.activeId ∈ s.ids ∧ s.activeTab ∈ s.tabs ∧
      s.activeTab.id = s.activeId ∧
      ∀ c : Change, s.Permits c → Does s c (s.apply c) ∧
        (s.apply c).tabs.filter (fun t => t.id ≠ c.named) =
          s.tabs.filter (fun t => t.id ≠ c.named) := by
  have hs := h.wellFormed (wellFormed_ofTabs hids)
  obtain ⟨hmem, hid⟩ := activeTab_of_active hs.active
  refine ⟨List.cons_ne_nil _ _, hs.nodup, hs.active, hmem, hid, fun c hc => ?_⟩
  have hdoes := does_apply hs.nodup c
  exact ⟨hdoes, hdoes.others hs.nodup hc⟩

/-- The last of three tabs is the active one; when it is closed, the one before it becomes so. -/
theorem changes_kept_apart_last :
    let tabs : List Tab := [⟨"a", "A", []⟩, ⟨"b", "B", []⟩]
    let s := (ofTabs "x" tabs "b").apply (.add "c" [] "[1]")
    (tabs.map Tab.id).Nodup ∧ Reaches (ofTabs "x" tabs "b") s ∧ s.activeId = "c" ∧
      Does s (.close "c") (s.close "c") ∧ (s.close "c").tabs = tabs ∧
      (s.close "c").activeId = "b" := by
  intro tabs s
  have hids : (tabs.map Tab.id).Nodup := by decide
  have hreaches : Reaches (ofTabs "x" tabs "b") s := .step _ .start (fun _ => by decide)
  obtain ⟨-, -, -, -, -, hchange⟩ := changes_kept_apart hids hreaches
  obtain ⟨hdoes, -⟩ := hchange (.close "c") (by simp [Permits, Change.isAdd])
  exact ⟨hids, hreaches, by decide, hdoes, by decide, by decide⟩

end JsonDesk.Session
