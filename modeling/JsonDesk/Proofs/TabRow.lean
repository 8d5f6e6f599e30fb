import JsonDesk.Proofs.Events
import JsonDesk.Proofs.Sessions

set_option autoImplicit false

namespace JsonDesk

open EditorM

def Page.row (p : Page) : Text × Text := (p.tab, p.title)

def Page.label (p : Page) : Nat × Text × Text := (p.number, p.tab, p.title)

def Page.key (p : Page) : Nat × Text := (p.number, p.tab)

def Tab.row (t : Tab) : Text × Text := (t.id, t.name)

namespace Session

def row (s : Session) : List (Text × Text) := s.tabs.map Tab.row

def Named (P : Text → Text → Prop) (s : Session) : Prop := ∀ t ∈ s.tabs, P t.id t.name

variable {P : Text → Text → Prop} {s s' : Session}

theorem ids_eq_of_row (h : s'.row = s.row) : s'.ids = s.ids := by
  have hids (s : Session) : s.ids = s.row.map Prod.fst := by
    rw [row, List.map_map]
    rfl
  rw [hids, h, ← hids]

theorem Named.of_row (h : s.Named P) (hrow : s'.row = s.row) : s'.Named P := by
  intro t ht
  have hmem : t.row ∈ s.row := hrow ▸ List.mem_map_of_mem ht
  obtain ⟨u, hu, heq⟩ := List.mem_map.mp hmem
  have hid : u.id = t.id := congrArg Prod.fst heq
  have hname : u.name = t.name := congrArg Prod.snd heq
  rw [← hid, ← hname]
  exact h u hu

theorem row_update (s : Session) (id content : Text) : (s.update id content).row = s.row := by
  have hmodify (ts : List Tab) : (modifyTab id (fun t => { t with content := content }) ts).map
      Tab.row = ts.map Tab.row := by
    induction ts with
    | nil => rfl
    | cons t ts ih =>
      rw [modifyTab]
      split
      · rfl
      · simp [ih]
  rw [row, update, (tabs_modify _ _ _).1]
  exact hmodify _

end Session

namespace Editor

/-- The names and the order of the tabs and the active one are left alone.  The compare window that
is in use is there if it was. -/
structure Beside (e e' : Editor) : Prop where
  setup : e'.setup = e.setup
  isOpen : e'.isOpen = true → e.isOpen = true
  taken : e.idsTaken ≤ e'.idsTaken
  row : e'.session.row = e.session.row
  activeId : e'.session.activeId = e.session.activeId
  inUse : e'.isOpen = true → (∀ w, e.comparing = some w → e.hasWindow w = true) →
    ∀ w, e'.comparing = some w → e'.hasWindow w = true

instance : IsPreorder Editor Beside where
  refl _ := ⟨rfl, id, Nat.le_refl _, rfl, rfl, fun _ h => h⟩
  trans _ _ _ h h' :=
    ⟨h'.setup.trans h.setup, fun ho => h.isOpen (h'.isOpen ho), Nat.le_trans h.taken h'.taken,
      h'.row.trans h.row, h'.activeId.trans h.activeId,
      fun ho hw => h'.inUse ho (h.inUse (h'.isOpen ho) hw)⟩

/-- The pages are left alone as well.  One that is to be looked at still is. -/
structure Aside (e e' : Editor) : Prop extends Beside e e' where
  labels : e'.pages.map Page.label = e.pages.map Page.label
  made : e'.pagesMade = e.pagesMade
  shown : e'.shown = e.shown
  signals : Signal.pageShown ∈ e.signals → Signal.pageShown ∈ e'.signals

instance : IsPreorder Editor Aside where
  refl _ := ⟨refl_of Beside _, rfl, rfl, rfl, id⟩
  trans _ _ _ h h' :=
    ⟨trans_of Beside h.toBeside h'.toBeside, h'.labels.trans h.labels, h'.made.trans h.made,
      h'.shown.trans h.shown, fun hs => h'.signals (h.signals hs)⟩

theorem aside_of_eq {e e' : Editor} (hsetup : e'.setup = e.setup) (hopen : e'.isOpen = e.isOpen)
    (hlabels : e'.pages.map Page.label = e.pages.map Page.label) (hmade : e'.pagesMade = e.pagesMade)
    (hshown : e'.shown = e.shown) (htaken : e.idsTaken ≤ e'.idsTaken)
    (hrow : e'.session.row = e.session.row)
    (hactive : e'.session.activeId = e.session.activeId)
    (hsignals : Signal.pageShown ∈ e.signals → Signal.pageShown ∈ e'.signals)
    (hcomparing : e'.comparing = e.comparing) (hwindows : ∀ w, e'.hasWindow w = e.hasWindow w) :
    Aside e e' :=
  ⟨⟨hsetup, fun ho => hopen ▸ ho, htaken, hrow, hactive,
    fun _ h w hw => (hwindows w).trans (h w (hcomparing ▸ hw))⟩, hlabels, hmade, hshown, hsignals⟩

theorem labels_modifyPage (e : Editor) (n : Nat) {f : Page → Page}
    (hf : ∀ p, (f p).label = p.label) :
    (e.modifyPage n f).pages.map Page.label = e.pages.map Page.label := by
  simp only [modifyPage, List.map_map]
  refine List.map_congr_left fun p _ => ?_
  rw [Function.comp_apply]
  split
  · exact hf p
  · rfl

theorem overlooks_aside : Overlooks Aside where
  aside h := by
    rw [h]
    exact aside_of_eq rfl rfl rfl rfl rfl (Nat.le_refl _) rfl rfl id rfl fun _ => rfl
  box e n b := by
    cases n with
    | page k =>
      exact aside_of_eq rfl rfl (labels_modifyPage e k fun _ => rfl) rfl rfl (Nat.le_refl _) rfl rfl
        id rfl fun _ => rfl
    | side w s =>
      have hkept : WindowsKept e.windows (e.setBox (.side w s) b).windows :=
        .modify _ _ fun _ => by cases s <;> exact ⟨rfl, rfl⟩
      exact aside_of_eq rfl rfl rfl rfl rfl (Nat.le_refl _) rfl rfl id rfl hkept.alive
  edited _ _ :=
    aside_of_eq rfl rfl rfl rfl rfl (Nat.le_refl _) rfl rfl (List.mem_append_left _) rfl fun _ => rfl
  content e tab content :=
    aside_of_eq rfl rfl rfl rfl rfl (Nat.le_refl _) (e.session.row_update tab content)
      (Session.tabs_modify _ _ _).2 id rfl fun _ => rfl
  repaint _ _ :=
    aside_of_eq rfl rfl (by simp only [List.map_map]; rfl) rfl rfl (Nat.le_refl _) rfl rfl id rfl
      fun _ => rfl
  windows _ _ h :=
    aside_of_eq rfl rfl rfl rfl rfl (Nat.le_refl _) rfl rfl id rfl h.alive

theorem aside_ignoresRequests : IgnoresRequests Aside := fun _ _ _ _ _ _ htaken =>
  aside_of_eq rfl rfl rfl rfl rfl htaken rfl rfl id rfl fun _ => rfl

theorem hasWindow_openWindow {e : Editor} {w : Nat} (h : e.hasWindow w = true) (theme : Theme) :
    hasWindow { e with windows := e.windows ++ [.blank theme] } w = true := by
  obtain ⟨x, hx, halive⟩ := (Option.any_eq_true _ _).mp h
  have hlt : w < e.windows.length := (List.getElem?_eq_some_iff.mp hx).1
  exact (Option.any_eq_true _ _).mpr ⟨x, by rw [List.getElem?_append_left hlt, hx], halive⟩

/-- What an editor was given it keeps, and one that is open was so before. -/
structure Stays (e e' : Editor) : Prop where
  setup : e'.setup = e.setup
  isOpen : e'.isOpen = true → e.isOpen = true

instance : IsPreorder Editor Stays where
  refl _ := ⟨rfl, id⟩
  trans _ _ _ h h' := ⟨h'.setup.trans h.setup, fun ho => h.isOpen (h'.isOpen ho)⟩

theorem stays_of_core {e e' : Editor} (h : SameCore e e') : Stays e e' :=
  ⟨congrArg Core.setup h, fun ho => (congrArg Core.isOpen h).symm.trans ho⟩

theorem stays_ignoresRequests : IgnoresRequests Stays := fun _ _ _ _ _ _ _ => ⟨rfl, id⟩

theorem allows_stays : Allows Stays fun _ => True where
  overlooks := overlooks_core.mono fun _ _ => stays_of_core
  startTimer _ _ _ _ _ := stays_ignoresRequests.startTimer _ _ _ _
  dropTimers _ _ := ⟨rfl, id⟩
  dropRequests _ _ _ := ⟨rfl, id⟩
  ask op payload _ _ _ _ hh := stays_ignoresRequests.ask op payload _ hh
  openWindow _ _ := ⟨rfl, id⟩
  useWindow _ _ _ := ⟨rfl, id⟩
  leaveWindow _ := ⟨rfl, id⟩
  loseWindow _ _ _ := ⟨rfl, id⟩
  close _ := ⟨rfl, nofun⟩

theorem tabs_stays : TabSteps Stays := allows_stays.tabSteps fun h => stays_of_core h.core

/-- The pages are those of the row, in its order.  If there are any, one of them is shown. -/
structure HasPages (rows : List (Text × Text)) (e : Editor) : Prop where
  row : e.pages.map Page.row = rows
  numbers : (e.pages.map Page.number).Nodup
  made : ∀ p ∈ e.pages, p.number ≤ e.pagesMade
  shown : rows ≠ [] → ∃ p ∈ e.pages, e.shown = some p.number

/-- The session is sound, and ids that are not taken yet are not those of its tabs. -/
structure HasSession (P : Text → Text → Prop) (e : Editor) : Prop where
  wellFormed : e.session.WellFormed
  named : e.session.Named P
  injective : Function.Injective e.setup.freshId
  supply : ∀ k {name : Text}, name ≠ [] → P (e.setup.freshId k) name
  unused : ∀ k, e.idsTaken ≤ k → e.setup.freshId k ∉ e.session.ids

/-- The pages stand for the tabs of the session, one for one and in their order. -/
structure Matches (P : Text → Text → Prop) (e : Editor) : Prop
    extends HasPages e.session.row e, HasSession P e

/-- The compare window that is in use is there, if that may be relied on. -/
structure Ready (P : Text → Text → Prop) (b : Prop) (e : Editor) : Prop extends Matches P e where
  inUse : b → ∀ w, e.comparing = some w → e.hasWindow w = true

/-- Unless another page is still to be looked at, the page that is shown is that of the active
tab. -/
structure InStep (P : Text → Text → Prop) (b : Prop) (e : Editor) : Prop extends Ready P b e where
  active : b → Signal.pageShown ∉ e.signals →
    ∃ p ∈ e.pages, e.shown = some p.number ∧ p.tab = e.session.activeId

/-- The editor is in step as long as it is open. -/
def Synced (P : Text → Text → Prop) (b : Prop) (e : Editor) : Prop :=
  e.isOpen = true → InStep P b e

def KeepsStep (P : Text → Text → Prop) (b : Prop) (e e' : Editor) : Prop :=
  Synced P b e → Synced P b e'

instance (P : Text → Text → Prop) (b : Prop) : IsPreorder Editor (KeepsStep P b) where
  refl _ h := h
  trans _ _ _ h h' hs := h' (h hs)

variable {P : Text → Text → Prop} {b : Prop} {rows : List (Text × Text)} {e e' : Editor}

theorem exists_page_of_keys {Q : Nat × Text → Prop}
    (hkeys : e'.pages.map Page.key = e.pages.map Page.key) (h : ∃ p ∈ e.pages, Q p.key) :
    ∃ p ∈ e'.pages, Q p.key := by
  obtain ⟨p, hp, hQ⟩ := h
  have hmem : p.key ∈ e'.pages.map Page.key := hkeys ▸ List.mem_map_of_mem hp
  obtain ⟨q, hq, heq⟩ := List.mem_map.mp hmem
  exact ⟨q, hq, heq ▸ hQ⟩

theorem HasPages.of_keys {rows' : List (Text × Text)} (h : HasPages rows e)
    (hkeys : e'.pages.map Page.key = e.pages.map Page.key) (hmade : e'.pagesMade = e.pagesMade)
    (hshown : e'.shown = e.shown) (hrow : e'.pages.map Page.row = rows') : HasPages rows' e' := by
  have hnumbers : e'.pages.map Page.number = e.pages.map Page.number := by
    have hmap := congrArg (List.map Prod.fst) hkeys
    rwa [List.map_map, List.map_map] at hmap
  refine ⟨hrow, hnumbers ▸ h.numbers, fun p hp => ?_, fun hne => ?_⟩
  · obtain ⟨q, hq, heq⟩ := exists_page_of_keys (Q := fun k => k.1 = p.number) hkeys.symm ⟨p, hp, rfl⟩
    have hnumber : q.number = p.number := heq
    rw [← hnumber, hmade]
    exact h.made q hq
  · rw [hshown]
    refine exists_page_of_keys (Q := fun k => e.shown = some k.1) hkeys (h.shown fun hnil => hne ?_)
    have hlength := congrArg List.length hkeys
    rw [List.length_map, List.length_map] at hlength
    rw [← h.row, List.map_eq_nil_iff] at hnil
    rw [← hrow, List.map_eq_nil_iff, List.eq_nil_iff_length_eq_zero, hlength, hnil]
    rfl

theorem Aside.project {α : Type} (h : Aside e e') (f : Nat × Text × Text → α) :
    (e'.pages.map fun p => f p.label) = e.pages.map fun p => f p.label := by
  have hmap := congrArg (List.map f) h.labels
  rwa [List.map_map, List.map_map] at hmap

theorem Aside.keys (h : Aside e e') : e'.pages.map Page.key = e.pages.map Page.key :=
  h.project fun l => (l.1, l.2.1)

theorem Aside.hasPages (h : Aside e e') (hp : HasPages rows e) : HasPages rows e' :=
  hp.of_keys h.keys h.made h.shown ((h.project Prod.snd).trans hp.row)

theorem HasSession.of_row (h : HasSession P e) (hsetup : e'.setup = e.setup)
    (htaken : e.idsTaken ≤ e'.idsTaken) (hrow : e'.session.row = e.session.row)
    (hactive : e'.session.activeId = e.session.activeId) : HasSession P e' := by
  have hids : e'.session.ids = e.session.ids := Session.ids_eq_of_row hrow
  refine ⟨h.wellFormed.of_ids_eq hids (hactive ▸ h.wellFormed.active), h.named.of_row hrow, ?_, ?_,
    ?_⟩
  · rw [hsetup]
    exact h.injective
  · rw [hsetup]
    exact h.supply
  · rw [hsetup, hids]
    exact fun k hk => h.unused k (Nat.le_trans htaken hk)

theorem Aside.matches (h : Aside e e') (hm : Matches P e) : Matches P e' where
  toHasPages := h.row ▸ h.hasPages hm.toHasPages
  toHasSession := hm.toHasSession.of_row h.setup h.taken h.row h.activeId

theorem Aside.ready (h : Aside e e') (hopen : e'.isOpen = true) (hs : Ready P b e) :
    Ready P b e' :=
  ⟨h.matches hs.toMatches, fun hb => h.inUse hopen (hs.inUse hb)⟩

theorem Aside.inStep (h : Aside e e') (hopen : e'.isOpen = true) (hs : InStep P b e) :
    InStep P b e' := by
  refine ⟨h.ready hopen hs.toReady, fun hb hpending => ?_⟩
  rw [h.shown, h.activeId]
  exact exists_page_of_keys (Q := fun k => e.shown = some k.1 ∧ k.2 = e.session.activeId) h.keys
    (hs.active hb fun hmem => hpending (h.signals hmem))

theorem Aside.keepsStep (h : Aside e e') : KeepsStep P b e e' := fun hs hopen =>
  h.inStep hopen (hs (h.isOpen hopen))

/-! ### Steps beside the row -/

theorem overlooks_keepsStep : Overlooks (KeepsStep P b) :=
  overlooks_aside.mono fun _ _ => Aside.keepsStep

theorem keepsStep_ignoresRequests : IgnoresRequests (KeepsStep P b) :=
  fun e taken started timers client posted htaken =>
    (aside_ignoresRequests e taken started timers client posted htaken).keepsStep

theorem shows_keepsStep : Shows (KeepsStep P b) := by
  refine shows_of_overlooks overlooks_keepsStep fun _ f => .setLabel fun e => Aside.keepsStep ?_
  exact aside_of_eq rfl rfl rfl rfl rfl (Nat.le_refl _) rfl rfl id rfl fun _ => rfl

theorem aside_windows (e : Editor) {ws : List CompareWindow} {c : Option Nat}
    (h : (∀ w, e.comparing = some w → e.hasWindow w = true) →
      ∀ w, c = some w → hasWindow { e with windows := ws, comparing := c } w = true) :
    Aside e { e with windows := ws, comparing := c } :=
  ⟨⟨rfl, id, Nat.le_refl _, rfl, rfl, fun _ => h⟩, rfl, rfl, rfl, id⟩

theorem allows_keepsStep : Allows (KeepsStep P b) fun _ => True where
  overlooks := overlooks_keepsStep
  startTimer _ _ _ _ _ := keepsStep_ignoresRequests.startTimer _ _ _ _
  dropTimers e _ := keepsStep_ignoresRequests.dropTimers e _
  dropRequests e _ _ := keepsStep_ignoresRequests.dropRequests e _
  ask op payload _ _ _ _ hh := keepsStep_ignoresRequests.ask op payload _ hh
  openWindow e theme :=
    (aside_windows e fun h w hw => hasWindow_openWindow (h w hw) theme).keepsStep
  useWindow e _ hw := (aside_windows e fun _ _ hv => Option.some.inj hv ▸ hw).keepsStep
  leaveWindow e := (aside_windows e fun _ _ hv => absurd hv (by simp)).keepsStep
  loseWindow e w hw := by
    refine (aside_windows e (c := e.comparing) fun h v hv => ?_).keepsStep
    have hne : w ≠ v := fun heq => hw (heq ▸ hv)
    exact (hasWindow_modifyWindow_of_ne e _ hne).trans (h v hv)
  close e :=
    Aside.keepsStep ⟨⟨rfl, nofun, Nat.le_refl _, rfl, rfl, nofun⟩, rfl, rfl, rfl, id⟩

theorem keepsStep_modifyWindow (e : Editor) (w : Nat) {f : CompareWindow → CompareWindow}
    (hf : ∀ x, (f x).alive = x.alive) : KeepsStep P b e (e.modifyWindow w f) := by
  refine Aside.keepsStep ?_
  exact aside_of_eq rfl rfl rfl rfl rfl (Nat.le_refl _) rfl rfl id rfl
    (hasWindow_modifyWindow e w hf)

theorem keepsStep_applyPart (w run : Nat) (part : Part) (payload : Json) :
    Leads (KeepsStep P b) (applyPart w run part payload) :=
  leads_applyPart w (fun e _ hf => keepsStep_modifyWindow e w fun x => (hf x).alive)
    overlooks_keepsStep.notice run part payload

theorem keepsStep_feedback : Leads (KeepsStep P b) feedback := by
  refine allows_keepsStep.feedback shows_keepsStep (fun e _ => Aside.keepsStep ?_)
    (fun _ _ _ => trivial) fun _ => trivial
  exact aside_of_eq rfl rfl rfl rfl rfl (Nat.le_refl _) rfl rfl id rfl fun _ => rfl

theorem keepsStep_comparison (w : Nat) : Leads (KeepsStep P b) (comparison w) :=
  allows_keepsStep.comparison w (keepsStep_applyPart w)
    (fun e _ _ => keepsStep_modifyWindow e w fun _ => rfl) fun _ _ => trivial

theorem keepsStep_replyHandle (r : Reply) (payload : Json) :
    Leads (KeepsStep P b) (r.handle payload) :=
  allows_keepsStep.handle shows_keepsStep trivial keepsStep_applyPart r payload

end Editor

end JsonDesk
