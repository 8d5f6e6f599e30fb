import JsonDesk.Proofs.Requests
import JsonDesk.Proofs.TabChanges

set_option autoImplicit false

namespace JsonDesk

open EditorM

namespace EditorM

theorem exists_run_of_bind {α β : Type} {m : EditorM α} {f : α → EditorM β} {r : β} {e s : Editor}
    (h : (m >>= f).run.run e = (.ok r, s)) :
    ∃ a, m.run.run e = (.ok a, after m e) ∧ (f a).run.run (after m e) = (.ok r, s) := by
  simp only [ExceptT.run_bind, StateT.run_bind] at h
  unfold after
  cases hm : m.run.run e with
  | mk result s' =>
    rw [hm] at h
    cases result with
    | ok a => exact ⟨a, rfl, h⟩
    | error x => cases h

end EditorM

namespace Editor

open Session (Renamable)

variable {P : Text → Text → Prop} {b : Prop} {rows : List (Text × Text)} {e e' : Editor}

/-! ### What happens -/

theorem keepsStep_arrives (h : Arrives (KeepsStep P b) e e') : KeepsStep P b e e' :=
  allows_keepsStep.arrived keepsStep_feedback keepsStep_comparison h

theorem keepsStep_destroyUsed (hb : ¬ b) : Leads (KeepsStep P b) (withCompare destroyWindow) := by
  refine .withCompare fun w e => allows_keepsStep.destroyWindow fun hs hopen => ?_
  have h := hs hopen
  have hsession : HasSession P (e.modifyWindow w fun window => { window with alive := false }) :=
    h.toHasSession.of_row rfl (Nat.le_refl _) rfl rfl
  exact ⟨⟨⟨⟨h.row, h.numbers, h.made, h.shown⟩, hsession⟩, fun h => absurd h hb⟩,
    fun h => absurd h hb⟩

/-- The step lemma: an editor in step is so after each event. -/
theorem Synced.next (hrename : Renamable P)
    {event : Event} (hs : Synced P b e) (hnext : e.next? event = some e')
    (hevent : b → event ≠ .act (.destroy .compare)) : Synced P b e' := by
  refine keeps_next (fun stop s s' hturn hs => ?_) (fun s now hs => ?_) hnext (fun hwait => ?_) hs
  · exact keepsStep_arrives (allows_keepsStep.turn (tabs_keepsStep hrename) hturn
      fun r payload _ _ _ => keepsStep_replyHandle r payload _) hs
  · exact overlooks_keepsStep.aside rfl hs
  · refine keepsStep_arrives (allows_keepsStep.next (tabs_keepsStep hrename) hwait hnext
      (fun hdestroy => keepsStep_destroyUsed (fun hb => hevent hb hdestroy) e) (fun op _ => ?_)
      (fun _ _ _ _ => trivial) fun r payload _ _ _ => keepsStep_replyHandle r payload _) hs
    exact allows_keepsStep.reshapeActive trivial (fun _ => shows_keepsStep.warnIfInvalid) op trivial

theorem Synced.run (hrename : Renamable P)
    {past : List (Editor × Event)} (hrun : Run e past e') (hs : Synced P b e)
    (hpast : b → ∀ s, (s, Event.act (.destroy .compare)) ∉ past) : Synced P b e' := by
  induction hrun with
  | start => exact hs
  | @step past s s' event _ hnext ih =>
    refine (ih fun hb s hmem => hpast hb s (List.mem_append_left _ hmem)).next hrename hnext
      fun hb hdestroy => hpast hb s ?_
    simp [hdestroy]

/-! ### The start -/

theorem beside_addPage (t : Tab) : Leads Beside (addPage t) := by
  intro e
  obtain ⟨signals, haside⟩ := after_addPage t e
  exact ⟨haside.setup, haside.isOpen, haside.taken, haside.row, haside.activeId, haside.inUse⟩

theorem HasPages.restored {ts : List Tab} (h : HasPages rows e)
    (hrun : (ts.forM addPage).run.run e = (.ok ⟨⟩, e')) :
    HasPages (rows ++ ts.map Tab.row) e' := by
  induction ts generalizing e rows with
  | nil =>
    cases hrun
    simpa using h
  | cons t ts ih =>
    obtain ⟨⟨⟩, -, hrest⟩ := exists_run_of_bind hrun
    obtain ⟨signals, haside⟩ := after_addPage t e
    have hadded := ih (haside.hasPages (h.add (p := e.newPage t) rfl rfl rfl rfl)) hrest
    simpa using hadded

section

variable {setup : Setup} {disk : Disk} {refused : List Command} {taken : Nat} {settings : Settings}
  {session : Session} {path : Text}

theorem synced_restoreTabs (h : HasSession P (bare setup disk refused taken settings session))
    (hrun : restoreTabs.run.run (bare setup disk refused taken settings session) = (.ok ⟨⟩, e)) :
    Synced P b e := by
  intro hopen
  let e₀ := bare setup disk refused taken settings session
  obtain ⟨⟨⟩, hadded, hrest⟩ := exists_run_of_bind (m := session.tabs.forM addPage) hrun
  have hbeside : Beside e₀ (after (session.tabs.forM addPage) e₀) :=
    Leads.forM (fun t _ => beside_addPage t) e₀
  have hnone : HasPages [] e₀ := ⟨rfl, List.nodup_nil, by simp [e₀, bare], by simp⟩
  have hpages := hnone.restored hadded
  generalize after (session.tabs.forM addPage) e₀ = s at hrest hbeside hpages
  -- the active tab is activated once more, which changes nothing
  have hactive : s.session.activate session.activeId = s.session := by
    have hid : session.activeId ∈ s.session.ids :=
      Session.ids_eq_of_row hbeside.row ▸ h.wellFormed.active
    obtain ⟨t, ht⟩ := Session.exists_find? hid
    rw [Session.activate, ht]
    exact Session.tabs_inj rfl hbeside.activeId.symm
  have hselect : after (selectTab session.activeId) s = e := by
    have hrun : (selectTab session.activeId).run.run { s with
        session := s.session.activate session.activeId } = (.ok ⟨⟩, e) := hrest
    rw [hactive] at hrun
    exact congrArg Prod.snd hrun
  have hready : Ready P b s :=
    { toHasPages := by
        rw [hbeside.row]
        exact hpages
      toHasSession := h.of_row hbeside.setup hbeside.taken hbeside.row hbeside.activeId
      inUse := fun _ => by
        refine hbeside.inUse ((stays_of_core (quiet_selectTab session.activeId s).core).isOpen ?_)
          (by simp [e₀, bare])
        rw [hselect]
        exact hopen }
  rw [← hselect]
  exact hready.selectTab hbeside.activeId.symm

theorem synced_opening (h : HasSession P (bare setup disk refused taken settings session))
    (hrename : Renamable P)
    (hrun : (opening path).run.run (bare setup disk refused taken settings session) = (.ok ⟨⟩, e)) :
    Synced P b e := by
  obtain ⟨⟨⟩, hrestored, hrest⟩ := exists_run_of_bind hrun
  have hopened : Leads (KeepsStep P b) (do
      if path ≠ [] then openPath path
      scheduleFeedback) :=
    .ite (fun _ => .bind (overlooks_keepsStep.openPath (keepsStep_newTab hrename) path)
      fun _ => allows_keepsStep.scheduleFeedback) fun _ => allows_keepsStep.scheduleFeedback
  have hsynced : Synced P b (after restoreTabs (bare setup disk refused taken settings session)) :=
    synced_restoreTabs h hrestored
  have hkept := hopened _ hsynced
  rwa [after, hrest] at hkept

end

/-! ### Other pages that are shown are looked at -/

/-- Signals may be added, but none that another page is shown. -/
def AddsEdits (e e' : Editor) : Prop :=
  ∃ more, e'.signals = e.signals ++ more ∧ Signal.pageShown ∉ more

theorem addsEdits_of_eq (h : e'.signals = e.signals) : AddsEdits e e' :=
  ⟨[], by rw [h, List.append_nil], List.not_mem_nil⟩

instance : IsPreorder Editor AddsEdits where
  refl _ := addsEdits_of_eq rfl
  trans _ _ _ h h' := by
    obtain ⟨more, hsignals, hmore⟩ := h
    obtain ⟨more', hsignals', hmore'⟩ := h'
    refine ⟨more ++ more', by rw [hsignals', hsignals, List.append_assoc], ?_⟩
    rw [List.mem_append]
    exact not_or.mpr ⟨hmore, hmore'⟩

theorem overlooks_addsEdits : Overlooks AddsEdits where
  aside h := by
    rw [h]
    exact addsEdits_of_eq rfl
  box _ n _ := by cases n <;> exact addsEdits_of_eq rfl
  edited _ n := ⟨[.edited n], rfl, by simp⟩
  content _ _ _ := addsEdits_of_eq rfl
  repaint _ _ := addsEdits_of_eq rfl
  windows _ _ _ := addsEdits_of_eq rfl

theorem addsEdits_ignoresRequests : IgnoresRequests AddsEdits :=
  fun _ _ _ _ _ _ _ => addsEdits_of_eq rfl

theorem allows_addsEdits : Allows AddsEdits fun _ => True where
  overlooks := overlooks_addsEdits
  startTimer _ _ _ _ _ := addsEdits_ignoresRequests.startTimer _ _ _ _
  dropTimers _ _ := addsEdits_of_eq rfl
  dropRequests _ _ _ := addsEdits_of_eq rfl
  ask op payload _ _ _ _ hh := addsEdits_ignoresRequests.ask op payload _ hh
  openWindow _ _ := addsEdits_of_eq rfl
  useWindow _ _ _ := addsEdits_of_eq rfl
  leaveWindow _ := addsEdits_of_eq rfl
  loseWindow _ _ _ := addsEdits_of_eq rfl
  close _ := addsEdits_of_eq rfl

theorem addsEdits_handle (s : Signal) : Leads AddsEdits s.handle := by
  cases s with
  | edited box => exact allows_addsEdits.edited box
  | pageShown =>
    refine .get fun _ => ?_
    split
    · refine .bind (.modify fun _ => addsEdits_of_eq rfl) fun _ => ?_
      have hshows : Shows AddsEdits := shows_of_overlooks overlooks_addsEdits fun _ _ =>
        .setLabel fun _ => addsEdits_of_eq rfl
      exact allows_addsEdits.feedbackHost.flush (allows_addsEdits.feedback hshows
        (fun _ _ => addsEdits_of_eq rfl) (fun _ _ _ => trivial) fun _ => trivial)
    · exact .pure _

/-- Each turn deals with the first signal, and leaves none behind that tells of another page. -/
theorem looked_at_turns (stop : Int) {front back : List Signal} (hsignals : e.signals = front ++ back)
    (hback : Signal.pageShown ∉ back) :
    Signal.pageShown ∉ (turns stop front.length e).signals := by
  induction front generalizing e back with
  | nil => exact hsignals ▸ hback
  | cons s front ih =>
    rw [List.cons_append] at hsignals
    have hturn : ∃ e', e.turn? stop = some e' ∧ AddsEdits { e with signals := front ++ back } e' := by
      rw [turn?, hsignals]
      refine ⟨_, rfl, ?_⟩
      dsimp only
      split
      · obtain ⟨ns, hcall⟩ := call_eq_after s.handle { e with signals := front ++ back }
        rw [hcall]
        exact trans_of _ (addsEdits_handle s _) (addsEdits_of_eq rfl)
      · exact refl_of AddsEdits _
    obtain ⟨e', hturn, more, hmore, hnone⟩ := hturn
    rw [List.length_cons, turns, hturn]
    refine ih (hmore.trans (List.append_assoc _ _ _)) ?_
    rw [List.mem_append]
    exact not_or.mpr ⟨hback, hnone⟩

theorem Synced.turns (hrename : Renamable P) (hs : Synced P b e) (stop : Int) (left : Nat) :
    Synced P b (Editor.turns stop left e) := by
  induction left generalizing e with
  | zero => exact hs
  | succ left ih =>
    rw [Editor.turns]
    cases hturn : e.turn? stop with
    | none => exact hs
    | some e' =>
      have hnext : e.next? (.turn stop) = some e' := hturn
      exact ih (hs.next hrename hnext fun _ => by simp)

theorem HasPages.shownPage?_eq (h : HasPages rows e) {p : Page} (hp : p ∈ e.pages)
    (hshown : e.shown = some p.number) : e.shownPage? = some p := by
  rw [shownPage?, hshown, Option.bind_some]
  cases hfind : e.pages.find? (fun q => q.number = p.number) with
  | none => exact absurd (List.find?_eq_none.mp hfind p hp) (by simp)
  | some q =>
    have hnumber : q.number = p.number := by simpa using List.find?_some hfind
    rw [List.inj_on_of_nodup_map h.numbers (List.mem_of_find?_eq_some hfind) hp hnumber]

theorem InStep.shownTab (h : InStep P b e) (hb : b) (hlooked : Signal.pageShown ∉ e.signals) :
    e.shownPage?.map Page.tab = some e.session.activeId := by
  obtain ⟨p, hp, hshown, htab⟩ := h.active hb hlooked
  rw [h.toHasPages.shownPage?_eq hp hshown, Option.map_some, htab]

/-- Whatever happens to an editor, there is a page for each tab of its session and for nothing
else, the pages are in the order of the tabs and bear their names, and one of them is shown.  It is
that of the active tab once it has been looked at, which the turns for the signals that wait see to,
provided that the window system takes no compare window away. -/
theorem tabs_in_step {setup : Setup} {disk : Disk} {refused : List Command} {taken : Nat}
    {settings : Settings} {fresh active path : Text} {tabs : List Tab} {e₀ e : Editor}
    {past : List (Editor × Event)} (hids : (tabs.map Tab.id).Nodup)
    (hfresh : Function.Injective setup.freshId)
    (hunused : ∀ k, taken ≤ k → setup.freshId k ∉ (Session.ofTabs fresh tabs active).ids)
    (hopening : (opening path).run.run
      (bare setup disk refused taken settings (.ofTabs fresh tabs active)) = (.ok ⟨⟩, e₀))
    (hrun : Run e₀ past e) (hopen : e.isOpen = true) :
    (∀ id, (e.page? id).isSome ↔ id ∈ e.session.ids) ∧ e.session.ids.Nodup ∧
      (e.pages.map fun p => (p.tab, p.title)) = (e.session.tabs.map fun t => (t.id, t.name)) ∧
      e.shownPage?.isSome ∧
      ((∀ s, (s, Event.act (.destroy .compare)) ∉ past) →
        (Signal.pageShown ∉ e.signals →
          e.shownPage?.map Page.tab = some e.session.activeId) ∧
        ∀ stop, (turns stop e.signals.length e).isOpen = true →
          (turns stop e.signals.length e).shownPage?.map Page.tab =
            some (turns stop e.signals.length e).session.activeId) := by
  have hrename : Renamable fun _ _ => True := fun _ _ _ _ _ => trivial
  have hstart : HasSession (fun _ _ => True)
      (bare setup disk refused taken settings (.ofTabs fresh tabs active)) :=
    ⟨Session.wellFormed_ofTabs hids, fun _ _ => trivial, hfresh, fun _ _ _ => trivial, hunused⟩
  have hsynced : Synced (fun _ _ => True) (∀ s, (s, Event.act (.destroy .compare)) ∉ past) e :=
    (synced_opening hstart hrename hopening).run hrename hrun id
  have h := hsynced hopen
  refine ⟨fun id => ⟨fun hsome => ?_, fun hid => ?_⟩, h.wellFormed.nodup, h.row, ?_,
    fun hpast => ⟨h.shownTab hpast, fun stop hstill => ?_⟩⟩
  · obtain ⟨p, hp⟩ := Option.isSome_iff_exists.mp hsome
    have htab : p.tab = id := by simpa using List.find?_some hp
    rw [← h.toHasPages.tabs, ← htab]
    exact List.mem_map_of_mem (List.mem_of_find?_eq_some hp)
  · obtain ⟨p, -, -, hp⟩ := h.toHasPages.exists_page? hid
    rw [hp]
    rfl
  · obtain ⟨p, hp, hshown⟩ := h.shown (by simp [Session.row, Session.tabs])
    rw [h.toHasPages.shownPage?_eq hp hshown]
    rfl
  · have hlooked : Signal.pageShown ∉ (turns stop e.signals.length e).signals :=
      looked_at_turns stop (List.append_nil _).symm List.not_mem_nil
    exact (hsynced.turns hrename stop _ hstill).shownTab hpast hlooked

/-- The first page is shown, but before that has been noticed the new tab, which is still the active
one, is closed, and the tab that is active then is renamed. -/
theorem tabs_in_step_renamed :
    let setup : Setup :=
      ⟨.remote, "/none", ⟨2000, 1, 1, 0, 0, 0⟩, fun n => List.replicate (n + 1) '#'⟩
    let tabs : List Tab := [⟨"a", "A", []⟩, ⟨"b", "B", "1"⟩]
    let row : List (Text × Text) := [("a", "A"), ("b", "Z")]
    (tabs.map Tab.id).Nodup ∧ Function.Injective setup.freshId ∧
      (∀ k, 0 ≤ k → setup.freshId k ∉ (Session.ofTabs "#" tabs "b").ids) ∧
      ∃ e₀ past e, (opening []).run.run
          (bare setup .empty [] 0 .default (.ofTabs "#" tabs "b")) = (.ok ⟨⟩, e₀) ∧
        Run e₀ past e ∧ past.map Prod.snd = [.act (.newTab "C" []), .act (.show 0),
          .act (.press .closeTab), .act (.doubleClick 150 " Z ")] ∧ e.isOpen = true ∧
        (e.session.tabs.map fun t => (t.id, t.name)) = row ∧
        (e.pages.map fun p => (p.tab, p.title)) = row ∧
        e.signals.length = 7 ∧ (turns 0 7 e).session.activeId = "b" ∧
        (turns 0 7 e).shownPage?.map Page.tab = some "b" := by
  intro setup tabs row
  have hids : (tabs.map Tab.id).Nodup := by decide
  have hfresh : Function.Injective setup.freshId := fun m n h => by
    simpa [setup] using congrArg List.length h
  have hunused (k : Nat) (_ : 0 ≤ k) : setup.freshId k ∉ (Session.ofTabs "#" tabs "b").ids := by
    have hhead : ∀ id ∈ (Session.ofTabs "#" tabs "b").ids,
      id.head? ≠ some (CodePoint.ofChar '#') := by decide
    exact fun hmem => hhead _ hmem rfl
  have hscene : (((opening []).run.run
      (bare setup .empty [] 0 .default (.ofTabs "#" tabs "b"))).1.toOption.bind fun _ =>
        ((after (opening []) (bare setup .empty [] 0 .default (.ofTabs "#" tabs "b"))).follow
          [.act (.newTab "C" []), .act (.show 0), .act (.press .closeTab),
            .act (.doubleClick 150 " Z ")]).map fun e =>
              ((e.session.tabs.map fun t => (t.id, t.name)), e.isOpen && (turns 0 7 e).isOpen,
                e.signals.length, (turns 0 7 e).session.activeId)) =
      some (row, true, 7, Text.ofString "b") := by
    decide +kernel
  refine ⟨hids, hfresh, hunused, ?_⟩
  obtain ⟨⟨⟩, hok, hscene⟩ := Option.bind_eq_some_iff.mp hscene
  have hopening : (opening []).run.run (bare setup .empty [] 0 .default (.ofTabs "#" tabs "b")) =
      (.ok ⟨⟩, after (opening []) (bare setup .empty [] 0 .default (.ofTabs "#" tabs "b"))) :=
    Prod.ext (eq_ok_of_toOption hok) rfl
  obtain ⟨e, hfollow, hscene⟩ := Option.map_eq_some_iff.mp hscene
  simp only [Prod.mk.injEq, Bool.and_eq_true] at hscene
  obtain ⟨hnames, ⟨hopen, hstill⟩, hlength, hactive⟩ := hscene
  obtain ⟨past, hrun, hevents⟩ := run_of_follow hfollow
  obtain ⟨-, -, hrow, -, hshown⟩ := tabs_in_step hids hfresh hunused hopening hrun hopen
  have hcalm (s : Editor) : (s, Event.act (.destroy .compare)) ∉ past := by
    intro hmem
    have hevent := hevents ▸ List.mem_map_of_mem (f := Prod.snd) hmem
    simp at hevent
  have hlooked := (hshown hcalm).2 0
  rw [hlength] at hlooked
  exact ⟨_, past, e, hopening, hrun, hevents, hopen, hnames, hrow.trans hnames, hlength, hactive,
    (hlooked hstill).trans (congrArg some hactive)⟩

end Editor

end JsonDesk
