import JsonDesk.Proofs.StatusArea
import JsonDesk.Proofs.TabRow

set_option autoImplicit false

namespace JsonDesk

open EditorM

namespace Session

variable {P : Text → Text → Prop} {s : Session}

theorem untitled_ne_nil : untitled ≠ [] := by decide

theorem untitledName_ne_nil (names : List Text) : untitledName names ≠ [] := by
  have hcandidate (k : Nat) : untitledName.candidate k ≠ [] := by
    simp [untitledName.candidate, untitled_ne_nil]
  have hgo (k left : Nat) : untitledName.go names k left ≠ [] := by
    induction left generalizing k with
    | zero => exact hcandidate k
    | succ left ih =>
      rw [untitledName.go]
      split
      · exact ih _
      · exact hcandidate k
  unfold untitledName
  split
  · exact hgo _ _
  · exact untitled_ne_nil

theorem find?_of_mem {t : Tab} (h : s.ids.Nodup) (ht : t ∈ s.tabs) : s.find? t.id = some t := by
  obtain ⟨front, back, hsplit⟩ := List.append_of_mem ht
  have hfront : ∀ u ∈ front, u.id ≠ t.id :=
    fun u hu => ids_ne_of_split h hsplit u (List.mem_append_left _ hu)
  have hnone : front.find? (fun u => u.id = t.id) = none := List.find?_eq_none.mpr (by simpa using hfront)
  simp [find?, hsplit, List.find?_append, hnone]

theorem exists_added (s : Session) (id name content : Text) : ∃ t : Tab, t.id = id ∧ t.name ≠ [] ∧
    t.content = content ∧ (s.add id name content).tabs = s.tabs ++ [t] ∧
      (s.add id name content).activeId = id := by
  refine ⟨⟨id, _, content⟩, rfl, ?_, rfl, rfl, rfl⟩
  dsimp only
  split
  · exact untitledName_ne_nil _
  · assumption

/-- A tab may be given any name that is not empty. -/
def Renamable (P : Text → Text → Prop) : Prop := ∀ id name new, P id name → new ≠ [] → P id new

theorem named_apply (h : s.Named P) (hs : s.ids.Nodup) (c : Change)
    (hrename : Renamable P)
    (hadd : c.isAdd = true → ∀ name, name ≠ [] → P c.named name) : (s.apply c).Named P := by
  have hfewer {tabs : List Tab} (hsub : tabs.Sublist s.tabs) : ∀ t ∈ tabs, P t.id t.name :=
    fun t ht => h t (hsub.subset ht)
  have hother {front back : List Tab} {t u : Tab} (hsplit : s.tabs = front ++ t :: back)
      (hu : P u.id u.name) : ∀ v ∈ front ++ u :: back, P v.id v.name := by
    simp only [Named, hsplit, List.forall_mem_append, List.forall_mem_cons] at h ⊢
    exact ⟨h.1, hu, h.2.2⟩
  have hmem {front back : List Tab} {t : Tab} (hsplit : s.tabs = front ++ t :: back) :
      P t.id t.name := h t (by simp [hsplit])
  cases hc : c.isAdd with
  | true =>
    cases c with
    | add id name content =>
      obtain ⟨t, hid, hname, -, htabs, -⟩ := s.exists_added id name content
      simp only [Named, apply, htabs, List.forall_mem_append, List.forall_mem_singleton]
      exact ⟨h, hid ▸ hadd hc _ hname⟩
    | _ => cases hc
  | false =>
    have hdoes := does_apply hs c
    generalize s.apply c = s' at hdoes ⊢
    unfold Named
    cases hdoes with
    | nothing _ _ => exact h
    | activate _ => exact h
    | keepName _ _ => exact h
    | add _ _ _ => cases hc
    | closeOnly hsplit htabs _ =>
      rw [htabs, List.forall_mem_singleton]
      have hP := hmem (hsplit.trans (List.nil_append _).symm)
      exact hrename _ _ _ hP untitled_ne_nil
    | closeOther hsplit _ htabs _ =>
      rw [htabs]
      exact hfewer (by rw [hsplit]; exact (List.sublist_cons_self _ _).append_left _)
    | closeActive hsplit _ htabs _ =>
      rw [htabs]
      exact hfewer (by rw [hsplit]; exact (List.sublist_cons_self _ _).append_left _)
    | closeLast hsplit _ htabs _ =>
      rw [htabs]
      exact hfewer (by simp [hsplit])
    | rename hsplit hname htabs _ =>
      rw [htabs]
      have hP := hmem hsplit
      exact hother hsplit (hrename _ _ _ hP hname)
    | update hsplit htabs _ =>
      rw [htabs]
      have hP := hmem hsplit
      exact hother hsplit hP

theorem ids_subset_apply (hs : s.ids.Nodup) {c : Change} (hc : c.isAdd = false) :
    (s.apply c).ids ⊆ s.ids := by
  have hdoes := does_apply hs c
  generalize s.apply c = s' at hdoes ⊢
  unfold ids
  cases hdoes with
  | nothing _ _ => exact List.Subset.refl _
  | activate _ => exact List.Subset.refl _
  | keepName _ _ => exact List.Subset.refl _
  | add _ _ _ => cases hc
  | closeOnly hsplit htabs _ => simp [hsplit, htabs]
  | closeOther hsplit _ htabs _ => simp [hsplit, htabs]
  | closeActive hsplit _ htabs _ => simp [hsplit, htabs]
  | closeLast hsplit _ htabs _ => simp [hsplit, htabs]
  | rename hsplit _ htabs _ => simp [hsplit, htabs]
  | update hsplit htabs _ => simp [hsplit, htabs]

end Session

namespace Editor

open Session (Renamable)

variable {P : Text → Text → Prop} {b : Prop} {rows : List (Text × Text)} {e e' : Editor}

theorem exists_box?_side {w : Nat} (hopen : e.isOpen = true) (h : e.hasWindow w = true) (s : Side) :
    ∃ box, e.box? (.side w s) = some box := by
  obtain ⟨x, hx, halive⟩ := (Option.any_eq_true _ _).mp h
  exact ⟨(x.view s).box, by simp [box?, hopen, hx, halive]⟩

theorem attains_applyTheme (hopen : e.isOpen = true)
    (hwindow : ∀ w, e.comparing = some w → e.hasWindow w = true) :
    Attains (fun _ => True) applyTheme e := by
  refine .modify (.get ?_)
  split
  · next w hw =>
    obtain ⟨box, hbox⟩ := exists_box?_side hopen (hwindow w hw) .left
    exact .useBox hbox ⟨⟨⟩, rfl, trivial⟩
  · exact .pure _ trivial

theorem run_showPage (n : Nat) (e : Editor) : (showPage n).run.run e =
    (.ok ⟨⟩, if e.shown = some n then e
      else { e with shown := some n, signals := e.signals ++ [.pageShown] }) := by
  unfold showPage
  refine (run_bind (a := e) (s := e) rfl).trans ?_
  by_cases h : e.shown = some n
  · rw [if_neg (not_not.mpr h), if_pos h]
    rfl
  · rw [if_pos h, if_neg h]
    rfl

def newPage (e : Editor) (t : Tab) : Page :=
  ⟨e.pagesMade + 1, t.id, t.name, (TextBox.blank.append t.content).acknowledge, e.settings.theme⟩

theorem run_addPage (t : Tab) (e : Editor) : ∃ signals,
    (addPage t).run.run e = applyTheme.run.run { e with
      pages := e.pages ++ [e.newPage t], pagesMade := e.pagesMade + 1, signals := signals,
      shown := if e.pages = [] then some (e.pagesMade + 1) else e.shown } := by
  let adding : EditorM Unit := do
    modify fun s => { s with
      pages := s.pages ++ [s.newPage t], pagesMade := e.pagesMade + 1 }
    if e.pages.isEmpty then showPage (e.pagesMade + 1)
    applyTheme
  have hadding (signals : List Signal) : ∃ signals',
      adding.run.run { e with signals := signals } = applyTheme.run.run { e with
        pages := e.pages ++ [e.newPage t], pagesMade := e.pagesMade + 1, signals := signals',
        shown := if e.pages = [] then some (e.pagesMade + 1) else e.shown } := by
    by_cases hpages : e.pages = []
    · have hempty : e.pages.isEmpty = true := by simpa using hpages
      simp only [adding, if_pos hempty, if_pos hpages]
      by_cases hshown : e.shown = some (e.pagesMade + 1)
      · refine ⟨signals, (run_bind rfl).trans ((run_bind (run_showPage _ _)).trans ?_)⟩
        rw [if_pos hshown, ← hshown]
        rfl
      · refine ⟨signals ++ [.pageShown], (run_bind rfl).trans ((run_bind (run_showPage _ _)).trans ?_)⟩
        rw [if_neg hshown]
        rfl
    · have hempty : ¬ e.pages.isEmpty = true := by simpa using hpages
      refine ⟨signals, ?_⟩
      simp only [adding, if_neg hempty, if_neg hpages]
      rfl
  by_cases hcontent : t.content = []
  · obtain ⟨signals, hrun⟩ := hadding e.signals
    refine ⟨signals, ?_⟩
    rw [← hrun]
    unfold addPage
    simp only [if_neg (not_not.mpr hcontent)]
    rfl
  · obtain ⟨signals, hrun⟩ := hadding (e.signals ++ [.edited _] ++ [.edited _])
    refine ⟨signals, ?_⟩
    rw [← hrun]
    unfold addPage
    simp only [if_pos hcontent]
    rfl

theorem after_addPage (t : Tab) (e : Editor) : ∃ signals, Aside { e with
    pages := e.pages ++ [e.newPage t], pagesMade := e.pagesMade + 1, signals := signals,
    shown := if e.pages = [] then some (e.pagesMade + 1) else e.shown } (after (addPage t) e) := by
  obtain ⟨signals, hrun⟩ := run_addPage t e
  refine ⟨signals, ?_⟩
  rw [after, hrun]
  exact overlooks_aside.applyTheme _

theorem HasPages.tabs (h : HasPages e.session.row e) : e.pages.map Page.tab = e.session.ids := by
  have hmap := congrArg (List.map Prod.fst) h.row
  rw [Session.row, List.map_map, List.map_map] at hmap
  exact hmap

theorem HasPages.exists_page? (h : HasPages e.session.row e) {id : Text} (hid : id ∈ e.session.ids) :
    ∃ p ∈ e.pages, p.tab = id ∧ e.page? id = some p := by
  cases hp : e.page? id with
  | some p => exact ⟨p, List.mem_of_find?_eq_some hp, by simpa using List.find?_some hp, rfl⟩
  | none =>
    rw [← h.tabs, List.mem_map] at hid
    obtain ⟨p, hmem, rfl⟩ := hid
    exact absurd (List.find?_eq_none.mp hp p hmem) (by simp)

theorem HasPages.add (h : HasPages rows e) {p : Page} {t : Tab}
    (hlabel : p.label = (e.pagesMade + 1, t.row)) (hpages : e'.pages = e.pages ++ [p])
    (hmade : e'.pagesMade = e.pagesMade + 1)
    (hshown : e'.shown = if e.pages = [] then some (e.pagesMade + 1) else e.shown) :
    HasPages (rows ++ [t.row]) e' := by
  have hnumber : p.number = e.pagesMade + 1 := congrArg Prod.fst hlabel
  have hrow : p.row = t.row := congrArg Prod.snd hlabel
  refine ⟨by simp [hpages, h.row, hrow], ?_, ?_, fun _ => ?_⟩
  · rw [hpages, List.map_append]
    refine h.numbers.append (List.nodup_singleton _) ?_
    rw [List.map_singleton, List.disjoint_singleton]
    intro hmem
    obtain ⟨q, hq, heq⟩ := List.mem_map.mp hmem
    have hle := h.made q hq
    omega
  · rw [hpages, hmade, List.forall_mem_append, List.forall_mem_singleton, hnumber]
    exact ⟨fun q hq => Nat.le_succ_of_le (h.made q hq), Nat.le_refl _⟩
  · rw [hpages, hshown]
    split
    · exact ⟨p, by simp, by rw [hnumber]⟩
    · next hne =>
      obtain ⟨q, hq, hn⟩ := h.shown fun hnil => hne (List.map_eq_nil_iff.mp (h.row.trans hnil))
      exact ⟨q, List.mem_append_left _ hq, hn⟩

theorem after_showPage (n : Nat) (e : Editor) : after (showPage n) e =
    if e.shown = some n then e
    else { e with shown := some n, signals := e.signals ++ [.pageShown] } := by
  rw [after, run_showPage]

theorem Ready.showPage (h : Ready P b e) {p : Page} (hp : p ∈ e.pages)
    (hactive : e.shown = some p.number → b → Signal.pageShown ∉ e.signals →
      p.tab = e.session.activeId) : InStep P b (after (showPage p.number) e) := by
  rw [after_showPage]
  split
  · next hshown => exact ⟨h, fun hb hpending => ⟨p, hp, hshown, hactive hshown hb hpending⟩⟩
  · have hsession : HasSession P { e with
        shown := some p.number, signals := e.signals ++ [.pageShown] } :=
      h.toHasSession.of_row rfl (Nat.le_refl _) rfl rfl
    refine ⟨⟨⟨⟨h.row, h.numbers, h.made, fun _ => ⟨p, hp, rfl⟩⟩, hsession⟩, h.inUse⟩,
      fun _ hpending => ?_⟩
    exact absurd (List.mem_append_right _ (.head _)) hpending

theorem Ready.selectTab (h : Ready P b e) {tab : Text} (htab : tab = e.session.activeId) :
    InStep P b (after (selectTab tab) e) := by
  obtain ⟨p, hp, hid, hpage⟩ := h.toHasPages.exists_page? h.wellFormed.active
  unfold EditorM.selectTab
  rw [after_get_bind, htab, hpage]
  exact h.showPage hp fun _ _ _ => hid

/-! ### New tabs -/

theorem Synced.bind {α β : Type} {m : EditorM α} {f : α → EditorM β} (hm : Synced P b (after m e))
    (hf : ∀ a, Leads (KeepsStep P b) (f a)) : Synced P b (after (m >>= f) e) := by
  rw [after_bind]
  split
  · exact hf _ _ hm
  · exact hm

theorem Ready.applyTheme_bind {α : Type} {f : Unit → EditorM α} (h : Ready P b e)
    (hopen : e.isOpen = true) (hf : ∀ s, Aside e s → Ready P b s → Synced P b (after (f ()) s)) :
    Synced P b (after (applyTheme >>= f) e) := by
  have haside : Aside e (after applyTheme e) := overlooks_aside.applyTheme e
  have hready : Ready P b (after applyTheme e) :=
    haside.ready ((congrArg Core.isOpen (overlooks_core.applyTheme e)).trans hopen) h
  rw [after_bind]
  cases hrun : (applyTheme.run.run e).1 with
  | ok a => exact hf _ haside hready
  | error x =>
    have hno : ¬ b := by
      intro hb
      obtain ⟨a, hok, -⟩ := attains_applyTheme hopen (h.inUse hb)
      rw [hrun] at hok
      cases hok
    exact fun _ => ⟨hready, fun hb => absurd hb hno⟩

theorem HasSession.add (h : HasSession P e)
    (hrename : Renamable P) (name content : Text) :
    HasSession P { e with
      idsTaken := e.idsTaken + 1,
      session := e.session.add (e.setup.freshId e.idsTaken) name content } := by
  let c : Session.Change := .add (e.setup.freshId e.idsTaken) name content
  have hnew : e.setup.freshId e.idsTaken ∉ e.session.ids := h.unused _ (Nat.le_refl _)
  refine ⟨(Session.does_apply h.wellFormed.nodup c).wellFormed h.wellFormed fun _ => hnew,
    Session.named_apply h.named h.wellFormed.nodup c hrename fun _ _ => h.supply _, h.injective,
    h.supply, fun k hk => ?_⟩
  obtain ⟨t, hid, -, -, htabs, -⟩ := e.session.exists_added (e.setup.freshId e.idsTaken) name content
  have hne : e.setup.freshId k ≠ e.setup.freshId e.idsTaken := by
    intro heq
    have := h.injective heq
    dsimp only at hk
    omega
  dsimp only
  rw [Session.ids, htabs, List.map_append, List.mem_append, List.map_singleton, List.mem_singleton,
    hid]
  exact not_or.mpr ⟨h.unused k (Nat.le_of_succ_le hk), hne⟩

theorem keepsStep_newTab (hrename : Renamable P)
    (name content : Text) : Leads (KeepsStep P b) (newTab name content) := by
  intro e hs hopen'
  have hopen : e.isOpen = true := (tabs_stays.newTab name content e).isOpen hopen'
  have h := hs hopen
  let id := e.setup.freshId e.idsTaken
  let named : Editor := { e with
    idsTaken := e.idsTaken + 1, session := e.session.add id name content }
  have hsession : HasSession P named := h.toHasSession.add hrename name content
  obtain ⟨t, hid, -, -, htabs, hactive⟩ := e.session.exists_added id name content
  have ht : named.session.activeTab = t := by
    have hmem : t ∈ named.session.tabs := htabs ▸ List.mem_append_right _ (.head _)
    rw [Session.activeTab, show named.session.activeId = t.id from hactive.trans hid.symm,
      Session.find?_of_mem hsession.wellFormed.nodup hmem, Option.getD_some]
  obtain ⟨signals, hrun⟩ := run_addPage t named
  let added : Editor := { named with
    pages := named.pages ++ [named.newPage t], pagesMade := named.pagesMade + 1,
    signals := signals,
    shown := if named.pages = [] then some (named.pagesMade + 1) else named.shown }
  have hrow : added.session.row = e.session.row ++ [t.row] := by
    show Session.row (e.session.add id name content) = _
    rw [Session.row, htabs, List.map_append]
    rfl
  have hready : Ready P b added :=
    { toHasPages := hrow ▸ h.toHasPages.add (p := e.newPage t) rfl rfl rfl rfl
      toHasSession := hsession.of_row rfl (Nat.le_refl _) rfl rfl
      inUse := h.inUse }
  have hpart (g : Unit → EditorM Tab)
      (hg : ∀ s, Aside added s → Ready P b s → Synced P b (after (g ()) s)) :
      Synced P b (after (addPage named.session.activeTab >>= g) named) := by
    rw [ht, after_bind_congr hrun]
    exact hready.applyTheme_bind hopen hg
  refine hpart (fun _ => do
    selectTab id
    saveSession
    return ((← get).session.find? id).getD named.session.activeTab) (fun s haside hs => ?_) hopen'
  refine Synced.bind (fun _ => hs.selectTab (hactive.symm.trans haside.activeId.symm)) fun _ => ?_
  exact .bind overlooks_keepsStep.saveSession fun _ => .get fun _ => .pure _

/-! ### Tabs that are closed -/

theorem HasSession.change (h : HasSession P e)
    (hrename : Renamable P) {c : Session.Change}
    (hc : c.isAdd = false) : HasSession P { e with session := e.session.apply c } where
  wellFormed := (Session.does_apply h.wellFormed.nodup c).wellFormed h.wellFormed fun hadd => by
    rw [hc] at hadd
    cases hadd
  named := Session.named_apply h.named h.wellFormed.nodup c hrename fun hadd => by
    rw [hc] at hadd
    cases hadd
  injective := h.injective
  supply := h.supply
  unused k hk hmem := h.unused k hk (Session.ids_subset_apply h.wellFormed.nodup hc hmem)

theorem HasPages.split {before behind : List Page} {p : Page} (h : HasPages e.session.row e)
    (hpages : e.pages = before ++ p :: behind) : ∃ front t back,
      e.session.tabs = front ++ t :: back ∧ front.map Tab.row = before.map Page.row ∧
        t.row = p.row ∧ back.map Tab.row = behind.map Page.row := by
  have hrow := h.row
  rw [hpages, List.map_append, List.map_cons, eq_comm, Session.row, List.map_eq_append_iff] at hrow
  obtain ⟨front, rest, htabs, hfront, hrest⟩ := hrow
  obtain ⟨t, back, rfl, ht, hback⟩ := List.map_eq_cons_iff.mp hrest
  exact ⟨front, t, back, htabs, hfront, ht, hback⟩

theorem HasPages.number_ne {before behind : List Page} {p : Page} (h : HasPages rows e)
    (hpages : e.pages = before ++ p :: behind) : ∀ q ∈ before ++ behind, q.number ≠ p.number := by
  have hnumbers := h.numbers
  rw [hpages, (List.perm_middle.map Page.number).nodup_iff, List.map_cons, List.nodup_cons]
    at hnumbers
  exact fun q hq heq => hnumbers.1 (heq ▸ List.mem_map_of_mem hq)

theorem Matches.eq_of_tab (h : Matches P e) {p q : Page} (hp : p ∈ e.pages) (hq : q ∈ e.pages)
    (htab : p.tab = q.tab) : p = q :=
  List.inj_on_of_nodup_map (h.toHasPages.tabs ▸ h.wellFormed.nodup) hp hq htab

def otherPages (e : Editor) (p : Page) : List Page := e.pages.filter fun q => q.number != p.number

/-- What is shown when a page is taken out: if it was that page, another one that is left. -/
structure Removed (p : Page) (e : Editor) (shown : Option Nat) (signals : List Signal) : Prop where
  hidden : e.shown ≠ some p.number → shown = e.shown ∧ signals = e.signals
  other : e.shown = some p.number → Signal.pageShown ∈ signals ∧
    (e.otherPages p ≠ [] → ∃ q ∈ e.otherPages p, shown = some q.number)

theorem after_removePage (p : Page) (e : Editor) : ∃ stray shown signals,
    Removed p e shown signals ∧ Aside { e with
      pages := e.otherPages p, strayPages := stray, shown := shown, signals := signals }
      (after (removePage p) e) := by
  have hdestroy : Leads Aside (do
      attempt .destroy
      modify fun e =>
        { e with strayPages := e.strayPages.filter fun q => q.number != p.number }) := by
    refine .bind (.attempt _) fun _ => .modify fun e => ?_
    exact aside_of_eq rfl rfl rfl rfl rfl (Nat.le_refl _) rfl rfl id rfl fun _ => rfl
  have hnext (rest : List Page) (i : Nat) (hrest : rest ≠ []) :
      ∃ q ∈ rest, (rest[i]?.or rest.getLast?).map (·.number) = some q.number := by
    cases hi : rest[i]? with
    | some q => exact ⟨q, List.mem_of_getElem? hi, rfl⟩
    | none =>
      rw [Option.none_or, List.getLast?_eq_some_getLast hrest]
      exact ⟨_, List.getLast_mem hrest, rfl⟩
  unfold removePage
  rw [after_get_bind, after_set_bind]
  split
  · next hshown =>
    exact ⟨_, _, _, ⟨fun hne => absurd hshown hne, fun _ =>
      ⟨List.mem_append_right _ (.head _), hnext _ _⟩⟩, hdestroy _⟩
  · next hshown =>
    refine ⟨e.strayPages ++ [p], e.shown, e.signals, ⟨fun _ => ⟨rfl, rfl⟩, fun h => absurd h hshown⟩,
      ?_⟩
    exact hdestroy { e with pages := e.otherPages p, strayPages := e.strayPages ++ [p] }

theorem InStep.removed (h : InStep P b e)
    (hrename : Renamable P) {p : Page}
    (hp : p ∈ e.pages) (htab : p.tab = e.session.activeId) (hothers : e.session.others ≠ [])
    {stray : List Page} {shown : Option Nat} {signals : List Signal}
    (hremoved : Removed p e shown signals) : InStep P b { e with
      session := e.session.close p.tab, pages := e.otherPages p, strayPages := stray,
      shown := shown, signals := signals } := by
  obtain ⟨before, behind, hpages⟩ := List.append_of_mem hp
  obtain ⟨front, t, back, htabs, hfront, ht, hback⟩ := h.toHasPages.split hpages
  have hid : t.id = p.tab := congrArg Prod.fst ht
  have hrest : front ++ back ≠ [] := by
    intro hnil
    obtain ⟨rfl, rfl⟩ := List.append_eq_nil_iff.mp hnil
    rw [Session.tabs, List.nil_append, List.cons.injEq] at htabs
    exact hothers htabs.2
  have hne := h.toHasPages.number_ne hpages
  have hleft : e.otherPages p = before ++ behind := by
    have hall : (before ++ behind).filter (fun q => q.number != p.number) = before ++ behind :=
      List.filter_eq_self.mpr fun q hq => by simpa using hne q hq
    rw [otherPages, hpages, List.filter_append, List.filter_cons_of_neg (by simp),
      ← List.filter_append, hall]
  have hrow : (e.otherPages p).map Page.row = (e.session.close p.tab).row := by
    rw [hleft, ← hid, Session.row, (Session.close_of_split h.wellFormed.nodup htabs hrest).1]
    simp [hfront, hback]
  have hshown : ∃ q ∈ e.otherPages p, shown = some q.number := by
    by_cases hcase : e.shown = some p.number
    · refine (hremoved.other hcase).2 fun hnil => hrest ?_
      simpa [hleft, ← List.map_eq_nil_iff (f := Page.row), ← hfront, ← hback] using hnil
    · obtain ⟨q, hq, hn⟩ := h.shown (by simp [Session.row, Session.tabs])
      refine ⟨q, List.mem_filter.mpr ⟨hq, ?_⟩, (hremoved.hidden hcase).1.trans hn⟩
      simpa using fun heq : q.number = p.number => hcase (hn.trans (congrArg some heq))
  refine ⟨⟨⟨⟨hrow, ?_, ?_, fun _ => hshown⟩, ?_⟩, h.inUse⟩, fun hb hpending => ?_⟩
  · exact h.numbers.sublist (List.filter_sublist.map _)
  · exact fun q hq => h.made q (List.mem_filter.mp hq).1
  · exact (h.toHasSession.change hrename (c := .close p.tab) rfl).of_row rfl (Nat.le_refl _) rfl rfl
  · -- a page that is shown and looked at is that of the active tab, which is the one taken out
    have hcase : e.shown ≠ some p.number := fun hcase => hpending (hremoved.other hcase).1
    obtain ⟨hsame, hsignals⟩ := hremoved.hidden hcase
    obtain ⟨q, hq, hn, hactive⟩ := h.active hb (hsignals ▸ hpending)
    have heq : q = p := h.toMatches.eq_of_tab hq hp (hactive.trans htab.symm)
    exact absurd (heq ▸ hn) hcase

theorem InStep.emptied (h : InStep P b e)
    (hrename : Renamable P) {p : Page}
    (hp : p ∈ e.pages) (htab : p.tab = e.session.activeId) (honly : e.session.others = [])
    (haside : Aside { e with session := e.session.close p.tab } e') (hopen : e'.isOpen = true) :
    InStep P b (e'.modifyPage p.number fun q => { q with title := untitled }) := by
  have hpages : e.pages = [p] := by
    have hrow := h.row
    rw [Session.row, Session.tabs, honly, List.map_singleton, List.map_eq_singleton_iff] at hrow
    obtain ⟨q, hq, -⟩ := hrow
    rw [hq, List.mem_singleton] at hp
    rw [hq, hp]
  obtain ⟨q, hq, hlabel⟩ : ∃ q, e'.pages = [q] ∧ q.label = p.label := by
    have hlabels : e'.pages.map Page.label = [p.label] := haside.labels.trans (by rw [hpages]; rfl)
    exact List.map_eq_singleton_iff.mp hlabels
  have hnumber : q.number = p.number := congrArg Prod.fst hlabel
  have hqtab : q.tab = p.tab := congrArg (fun l => l.2.1) hlabel
  obtain ⟨htabs, hactive⟩ := Session.close_of_only (s := e.session) (t := e.session.first)
    (by rw [Session.tabs, honly])
  have hid : p.tab = e.session.first.id := by
    have hmem := h.wellFormed.active
    rwa [Session.ids, Session.tabs, honly, List.map_singleton, List.mem_singleton, ← htab] at hmem
  rw [← hid] at htabs hactive
  have hmodified : (e'.modifyPage p.number fun q => { q with title := untitled }).pages =
      [{ q with title := untitled }] := by
    rw [modifyPage, hq, List.map_singleton, if_pos hnumber]
  have hmem : { q with title := untitled } ∈
      (e'.modifyPage p.number fun q => { q with title := untitled }).pages := by
    rw [hmodified]
    exact .head _
  have hshown : e'.shown = some q.number := by
    obtain ⟨r, hr, hn⟩ := h.shown (by simp [Session.row, Session.tabs])
    rw [hpages, List.mem_singleton] at hr
    rw [haside.shown, hn, hr, hnumber]
  have hsession := (h.toHasSession.change hrename (c := .close p.tab) rfl).of_row haside.setup
    haside.taken haside.row haside.activeId
  refine ⟨⟨⟨⟨?_, ?_, ?_, fun _ => ⟨_, hmem, hshown⟩⟩, ?_⟩, ?_⟩, fun _ _ => ?_⟩
  · rw [hmodified, show (e'.modifyPage p.number _).session = e'.session from rfl, haside.row,
      Session.row, htabs, ← hqtab]
    rfl
  · rw [hmodified]
    exact List.nodup_singleton _
  · rw [hmodified, List.forall_mem_singleton, show (e'.modifyPage p.number _).pagesMade = _ from
      haside.made]
    exact hnumber ▸ h.made p hp
  · exact hsession.of_row rfl (Nat.le_refl _) rfl rfl
  · exact fun hb => haside.inUse hopen (h.inUse hb)
  · refine ⟨_, hmem, hshown, ?_⟩
    exact hqtab.trans (hactive.symm.trans haside.activeId.symm)

theorem attains_replaceText {n : BoxName} {box : TextBox} (hbox : e.box? n = some box)
    (text : Text) : Attains (fun _ => True) (replaceText n text) e :=
  (attains_changeBox hbox _).bind fun _ _ hs =>
    (attains_changeBox hs.2 _).imp fun _ _ => trivial

theorem keepsStep_closeTab (hrename : Renamable P) :
    Leads (KeepsStep P b) closeTab := by
  intro e hs hopen'
  have hopen : e.isOpen = true := (tabs_stays.closeTab e).isOpen hopen'
  have h := hs hopen
  have hactive : e.session.activeTab.id = e.session.activeId :=
    (Session.activeTab_of_active h.wellFormed.active).2
  obtain ⟨p, hp, htab, hpage⟩ := h.toHasPages.exists_page? h.wellFormed.active
  have hsave : Leads (KeepsStep P b) (do saveSession; scheduleFeedback) :=
    .bind overlooks_keepsStep.saveSession fun _ => allows_keepsStep.scheduleFeedback
  let closed : Editor := { e with session := e.session.close p.tab }
  unfold closeTab at hopen' ⊢
  rw [after_get_bind, after_modify_bind, hactive, hpage] at hopen' ⊢
  refine (?_ : Synced P b _) hopen'
  rw [← htab]
  dsimp only
  by_cases hothers : e.session.others = []
  · rw [if_pos (by simpa using hothers)]
    obtain ⟨box, hbox⟩ := exists_box?_of_page? (e := closed) hpage hopen
    obtain ⟨a, hbind⟩ := (attains_replaceText hbox []).after_bind (f := fun _ => do
      modify fun e => e.modifyPage p.number fun p => { p with title := untitled }
      saveSession
      scheduleFeedback)
    rw [hbind, after_modify_bind]
    refine hsave _ fun hstill => ?_
    exact h.emptied hrename hp htab hothers (overlooks_aside.replaceText _ _ closed) hstill
  · rw [if_neg (by simpa using hothers)]
    obtain ⟨stray, shown, signals, hremoved, haside⟩ := after_removePage p closed
    refine Synced.bind (haside.keepsStep fun _ => h.removed hrename hp htab hothers
      ⟨hremoved.hidden, hremoved.other⟩) fun _ s hsynced => ?_
    refine Synced.bind (m := selectTab _) (fun hstill => ?_) fun _ => hsave
    have hready := hsynced ((stays_of_core (quiet_selectTab _ s).core).isOpen hstill)
    exact hready.toReady.selectTab (Session.activeTab_of_active hready.wellFormed.active).2

/-! ### Other names, and other pages -/

theorem pages_modifyPage {before behind : List Page} {p : Page} (h : HasPages rows e)
    (hpages : e.pages = before ++ p :: behind) (f : Page → Page) :
    (e.modifyPage p.number f).pages = before ++ f p :: behind := by
  have hne := h.number_ne hpages
  have hsame {pages : List Page} (hpages : ∀ q ∈ pages, q.number ≠ p.number) :
      pages.map (fun q => if q.number = p.number then f q else q) = pages :=
    (List.map_congr_left fun q hq => if_neg (hpages q hq)).trans (List.map_id' _)
  rw [modifyPage, hpages, List.map_append, List.map_cons, if_pos rfl,
    hsame fun q hq => hne q (List.mem_append_left _ hq),
    hsame fun q hq => hne q (List.mem_append_right _ hq)]

theorem InStep.renamed (h : InStep P b e)
    (hrename : Renamable P) {p : Page} {name : Text}
    {session : Session} (hp : p ∈ e.pages) (hsession : e.session.rename p.tab name = some session) :
    InStep P b { e.modifyPage p.number fun q => { q with title := name.strip } with
      session := session } := by
  obtain ⟨before, behind, hpages⟩ := List.append_of_mem hp
  obtain ⟨front, t, back, htabs, hfront, ht, hback⟩ := h.toHasPages.split hpages
  have hid : t.id = p.tab := congrArg Prod.fst ht
  have hchange := h.toHasSession.change hrename (c := .rename p.tab name) rfl
  rw [Session.apply, hsession, Option.getD_some] at hchange
  have hmodify : session = e.session.modify t.id fun t => { t with name := name.strip } := by
    unfold Session.rename at hsession
    split at hsession
    · cases hsession
    · split at hsession
      · cases hsession
      · cases hsession
        rw [hid]
  have hnow : session.tabs = front ++ { t with name := name.strip } :: back := by
    rw [hmodify]
    exact Session.tabs_modify_of_split h.wellFormed.nodup htabs
  have hactive : session.activeId = e.session.activeId := by
    rw [hmodify]
    exact (Session.tabs_modify _ _ _).2
  have hmodified := pages_modifyPage h.toHasPages hpages fun q => { q with title := name.strip }
  have hkeys : (e.modifyPage p.number fun q => { q with title := name.strip }).pages.map Page.key =
      e.pages.map Page.key := by
    rw [hmodified, hpages, List.map_append, List.map_append]
    rfl
  have hrow : (e.modifyPage p.number fun q => { q with title := name.strip }).pages.map Page.row =
      session.row := by
    rw [hmodified, Session.row, hnow, List.map_append, List.map_append, List.map_cons,
      List.map_cons, hfront, hback, Page.row, Tab.row, hid]
  refine ⟨⟨⟨h.toHasPages.of_keys hkeys rfl rfl hrow, hchange.of_row rfl (Nat.le_refl _) rfl rfl⟩,
    h.inUse⟩, fun hb hpending => ?_⟩
  rw [hactive]
  exact exists_page_of_keys (Q := fun k => e.shown = some k.1 ∧ k.2 = e.session.activeId) hkeys
    (h.active hb hpending)

theorem keepsStep_renameTabAt (hrename : Renamable P)
    (x : Int) : Leads (KeepsStep P b) (renameTabAt x) := by
  intro e
  unfold renameTabAt
  rw [after_get_bind]
  dsimp only
  split
  · exact refl_of _ e
  · next p hp =>
    have hmem : p ∈ e.pages := by
      split at hp
      · exact List.mem_of_getElem? hp
      · cases hp
    split
    · exact refl_of _ e
    · next t ht =>
      have hid : t.id = p.tab := (Session.mem_of_find? ht).2
      unfold EditorM.notice EditorM.takeAnswer
      simp only [bind_assoc, pure_bind]
      rw [after_modify_bind, after_get_bind, after_set_bind]
      have hasked : KeepsStep P b e { e.notice (.askedTabName t.name) with
          answers := e.answers.filter fun a => a.1 != .tabName } := overlooks_keepsStep.aside rfl
      split
      · split
        · exact hasked
        · next session hsession =>
          rw [hid] at hsession
          rw [after_modify_bind]
          refine trans_of _ hasked (trans_of _ (fun hs hopen => ?_) (overlooks_keepsStep.saveSession _))
          exact (hs hopen).renamed hrename hmem hsession
      · exact hasked

theorem shownPage?_eq_some {p : Page} (h : e.shownPage? = some p) :
    p ∈ e.pages ∧ e.shown = some p.number := by
  obtain ⟨n, hn, hp⟩ := Option.bind_eq_some_iff.mp h
  have hnumber := List.find?_some hp
  exact ⟨List.mem_of_find?_eq_some hp, by rw [hn, of_decide_eq_true hnumber]⟩

theorem InStep.activated (h : InStep P b e)
    (hrename : Renamable P) {p : Page}
    (hp : e.shownPage? = some p) (signals : List Signal) :
    InStep P b { e with signals := signals, session := e.session.activate p.tab } := by
  obtain ⟨hmem, hshown⟩ := shownPage?_eq_some hp
  have hid : p.tab ∈ e.session.ids := h.toHasPages.tabs ▸ List.mem_map_of_mem hmem
  obtain ⟨t, ht⟩ := Session.exists_find? hid
  have hsession := h.toHasSession.change hrename (c := .activate p.tab) rfl
  rw [Session.apply, Session.activate, ht] at hsession
  rw [Session.activate, ht]
  exact ⟨⟨⟨⟨h.row, h.numbers, h.made, h.shown⟩, hsession.of_row rfl (Nat.le_refl _) rfl rfl⟩,
    h.inUse⟩, fun _ _ => ⟨p, hmem, hshown, rfl⟩⟩

theorem InStep.dropSignal (h : InStep P b e) {s : Signal} {rest : List Signal}
    (hsignals : e.signals = s :: rest) (hs : s ≠ .pageShown) :
    InStep P b { e with signals := rest } := by
  refine ⟨⟨⟨⟨h.row, h.numbers, h.made, h.shown⟩,
    h.toHasSession.of_row rfl (Nat.le_refl _) rfl rfl⟩, h.inUse⟩, fun hb hpending => ?_⟩
  refine h.active hb ?_
  rw [hsignals, List.mem_cons]
  exact not_or.mpr ⟨hs.symm, hpending⟩

theorem tabs_keepsStep (hrename : Renamable P) :
    TabSteps (KeepsStep P b) where
  newTab := keepsStep_newTab hrename
  closeTab := keepsStep_closeTab hrename
  renameTabAt := keepsStep_renameTabAt hrename
  showPage hp hs hopen := by
    have h := hs ((stays_of_core (quiet_showPage _ _).core).isOpen hopen)
    refine h.toReady.showPage hp fun hshown hb hpending => ?_
    obtain ⟨q, hq, hn, htab⟩ := h.active hb hpending
    have hnumber : q.number = _ := Option.some.inj (hn.symm.trans hshown)
    rw [← List.inj_on_of_nodup_map h.numbers hq hp hnumber, htab]
  activate _ hp hs hopen := (hs hopen).activated hrename hp _
  dropSignal {e s rest} hsignals hnone hs hopen := by
    have h := hs hopen
    refine h.dropSignal hsignals fun hshows => ?_
    obtain ⟨p, hp, hshown⟩ := h.shown (by simp [Session.row, Session.tabs])
    have hnot := hnone hshows hopen
    rw [shownPage?, hshown, Option.bind_some, List.find?_eq_none] at hnot
    exact hnot p hp (decide_eq_true rfl)

end Editor

end JsonDesk
