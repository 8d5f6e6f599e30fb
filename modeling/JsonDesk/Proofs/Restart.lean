import JsonDesk.Proofs.Closing

set_option autoImplicit false

namespace JsonDesk

open EditorM

namespace Editor

variable {P : Text → Text → Prop} {b : Prop} {e e' : Editor}

/-! ### What an editor was given -/

theorem shows_stays : Shows Stays :=
  shows_of_overlooks allows_stays.overlooks fun _ _ => .setLabel fun _ => ⟨rfl, id⟩

theorem stays_applyPart (w run : Nat) (part : Part) (payload : Json) :
    Leads Stays (applyPart w run part payload) :=
  (status_applyPart w run part payload).mono fun _ _ hs => stays_of_core hs.1

theorem stays_arrives (h : Arrives Stays e e') : Stays e e' :=
  allows_stays.arrived
    (allows_stays.feedback shows_stays (fun _ _ => ⟨rfl, id⟩) (fun _ _ _ => trivial) fun _ => trivial)
    (fun w => allows_stays.comparison w (stays_applyPart w) (fun _ _ _ => ⟨rfl, id⟩)
      fun _ _ => trivial) h

theorem stays_next {event : Event} (hnext : e.next? event = some e') : Stays e e' := by
  have hhandle (r : Reply) (payload : Json) : Leads Stays (r.handle payload) :=
    allows_stays.handle shows_stays trivial stays_applyPart r payload
  refine keeps_next (I := Stays e) (fun stop s s' hturn hs => ?_) (fun s now hs => ?_) hnext
    (fun hwait => ?_) (refl_of Stays e)
  · exact trans_of Stays hs (stays_arrives (allows_stays.turn tabs_stays hturn
      fun r payload s _ _ => hhandle r payload s))
  · exact ⟨hs.setup, hs.isOpen⟩
  · refine stays_arrives (allows_stays.next tabs_stays hwait hnext (fun _ => ?_) (fun op _ => ?_)
      (fun _ _ _ _ => trivial) fun r payload s _ _ => hhandle r payload s)
    · exact Leads.withCompare (fun w s => allows_stays.destroyWindow ⟨rfl, id⟩) e
    · exact allows_stays.reshapeActive trivial (fun _ => shows_stays.warnIfInvalid) op trivial

theorem Run.stays {past : List (Editor × Event)} (h : Run e past e') : Stays e e' := by
  induction h with
  | start => exact refl_of Stays e
  | step event _ hnext ih => exact trans_of Stays ih (stays_next hnext)

theorem stays_opening (path : Text) : Leads Stays (opening path) :=
  .bind (fun e => stays_of_core (quiet_restoreTabs e).core) fun _ =>
    .ite (fun _ => .bind (allows_stays.overlooks.openPath tabs_stays.newTab path) fun _ =>
      allows_stays.scheduleFeedback) fun _ => allows_stays.scheduleFeedback

/-! ### The new editor -/

theorem run_addPages (ts : List Tab) (hcomparing : e.comparing = none) :
    ∃ pages made signals shown, (ts.forM addPage).run.run e = (.ok ⟨⟩, { e with
      pages := pages, pagesMade := made, signals := signals, shown := shown }) ∧
      pages.map Page.asTab = e.pages.map Page.asTab ++ ts := by
  induction ts generalizing e with
  | nil => exact ⟨e.pages, e.pagesMade, e.signals, e.shown, rfl, by simp⟩
  | cons t ts ih =>
    obtain ⟨signals, hrun⟩ := run_addPage t e
    let added : Editor := { e with
      pages := e.pages ++ [e.newPage t], pagesMade := e.pagesMade + 1, signals := signals,
      shown := if e.pages = [] then some (e.pagesMade + 1) else e.shown }
    let painted : Editor := { added with
      pages := added.pages.map fun p => { p with theme := e.settings.theme } }
    have hpaint : applyTheme.run.run added = (.ok ⟨⟩, painted) := by
      refine (run_bind (a := PUnit.unit) (s := painted) rfl).trans ?_
      refine (run_bind (a := painted) (s := painted) rfl).trans ?_
      rw [show painted.comparing = none from hcomparing]
      rfl
    have hnew : (e.newPage t).asTab = t := by
      simp [newPage, Page.asTab, TextBox.acknowledge, TextBox.content_append, TextBox.blank]
    have hpainted : painted.pages.map Page.asTab = e.pages.map Page.asTab ++ [t] := by
      show (added.pages.map _).map Page.asTab = _
      rw [List.map_map, ← hnew]
      exact List.map_append
    have hfirst : (addPage t).run.run e = (.ok ⟨⟩, painted) := hrun.trans hpaint
    obtain ⟨pages, made, signals', shown, hrest, hpages⟩ := ih (e := painted) hcomparing
    refine ⟨pages, made, signals', shown, (run_bind hfirst).trans hrest, ?_⟩
    rw [hpages, hpainted, List.append_assoc]
    rfl

/-- The pages show the session as it is, and the one that is shown is that of the active tab. -/
structure Restored (s : Session) (e : Editor) : Prop where
  session : e.session = s
  pages : e.pages.map Page.asTab = s.tabs
  shown : e.shownPage?.map Page.tab = some s.activeId

theorem Restored.of_timers {s : Session} (h : Restored s e) (htimers : SameButTimers e e') :
    Restored s e' := by
  rw [htimers]
  exact ⟨h.session, h.pages, h.shown⟩

theorem sameButTimers_scheduleFeedback : Leads SameButTimers scheduleFeedback :=
  .get fun _ => sameButTimers_feedbackHost.schedule _

theorem attains_startTimer (hopen : e.isOpen = true) (htimers : e.refused.elem .startTimer = false)
    (owner : Option Nat) (delay : Int) (job : Job) :
    Attains (fun _ => True) (startTimer owner delay job) e := by
  have hallowed : (attempt .startTimer).run.run e = (.ok ⟨⟩, e) := by
    rw [run_attempt, hopen, htimers]
    rfl
  exact .known hallowed ⟨_, rfl, trivial⟩

theorem attains_scheduleFeedback (hopen : e.isOpen = true)
    (htimers : e.refused.elem .startTimer = false) (hidle : e.feedbackTimer = none) :
    Attains (fun _ => True) scheduleFeedback e := by
  have hcancel : (Debounce.cancel feedbackHost).run.run e =
      (.ok ⟨⟩, { e with feedbackTimer := none }) := by
    unfold Debounce.cancel
    refine (run_bind (a := e.feedbackTimer) (s := e) rfl).trans ?_
    rw [hidle]
    rfl
  have hstart (delay : Int) : Attains (fun _ => True) (startTimer none delay .feedback)
      { e with feedbackTimer := none } :=
    attains_startTimer (e := { e with feedbackTimer := none }) hopen htimers none delay .feedback
  exact .get (.known hcancel (.bind (hstart _) fun _ _ _ => ⟨_, rfl, trivial⟩))

section

variable (setup : Setup) (disk : Disk) (refused : List Command) (taken : Nat) (settings : Settings)
  {session : Session}

theorem run_restoreTabs (hs : session.WellFormed) :
    ∃ e, restoreTabs.run.run (bare setup disk refused taken settings session) = (.ok ⟨⟩, e) ∧
      Restored session e ∧ e.isOpen = true ∧ e.refused = refused ∧ e.feedbackTimer = none := by
  let e₀ := bare setup disk refused taken settings session
  obtain ⟨pages, made, signals, shown, hadded, hpages⟩ :=
    run_addPages (e := e₀) session.tabs rfl
  let added : Editor := { e₀ with
    pages := pages, pagesMade := made, signals := signals, shown := shown }
  have hnone : HasPages [] e₀ := ⟨rfl, List.nodup_nil, by simp [e₀, bare], by simp⟩
  have hmatch : HasPages added.session.row added := hnone.restored hadded
  obtain ⟨p, hp, htab, hfound⟩ := hmatch.exists_page? hs.active
  have hactive : session.activate session.activeId = session := by
    obtain ⟨t, ht⟩ := Session.exists_find? hs.active
    rw [Session.activate, ht]
  have hshow : (selectTab session.activeId).run.run { added with
      session := session.activate session.activeId } = (showPage p.number).run.run added := by
    rw [hactive, selectTab]
    refine (run_bind (a := added) (s := added) rfl).trans ?_
    rw [show added.page? session.activeId = some p from hfound]
  have hrun : restoreTabs.run.run e₀ = (.ok ⟨⟩, after (showPage p.number) added) := by
    refine (run_bind hadded).trans (hshow.trans ?_)
    rw [run_showPage, after_showPage]
  have hrestored {signals : List Signal} :
      Restored session { added with shown := some p.number, signals := signals } := by
    refine ⟨rfl, hpages, ?_⟩
    have hshown : HasPages added.session.row { added with
        shown := some p.number, signals := signals } :=
      ⟨hmatch.row, hmatch.numbers, hmatch.made, fun _ => ⟨p, hp, rfl⟩⟩
    rw [hshown.shownPage?_eq hp rfl, Option.map_some, htab]
  refine ⟨_, hrun, ?_⟩
  rw [after_showPage]
  split
  · next heq =>
    have hsame : added = { added with shown := some p.number, signals := signals } := by
      rw [← heq]
    rw [hsame]
    exact ⟨hrestored, rfl, rfl, rfl⟩
  · exact ⟨hrestored, rfl, rfl, rfl⟩

theorem restored_opening (hs : session.WellFormed) :
    Restored session (after (opening []) (bare setup disk refused taken settings session)) ∧
      (refused.elem .startTimer = false →
        Attains (fun _ => True) (opening []) (bare setup disk refused taken settings session)) := by
  obtain ⟨r, hrestore, hrestored, hopen, hrefused, hidle⟩ :=
    run_restoreTabs setup disk refused taken settings hs
  have hrun : (opening []).run.run (bare setup disk refused taken settings session) =
      scheduleFeedback.run.run r := run_bind hrestore
  unfold Attains after
  rw [hrun]
  exact ⟨hrestored.of_timers (sameButTimers_scheduleFeedback r),
    fun htimers => attains_scheduleFeedback hopen (hrefused ▸ htimers) hidle⟩

end

section

variable {setup : Setup} {disk : Disk} {refused : List Command} {settings : Settings}
  {session : Session}

theorem run_opening
    (hsettings : disk.loadSettings (Path.join setup.directory settingsFile) = .ok settings)
    (hsession : disk.loadSession setup.freshId (Path.join setup.directory sessionFile) = .ok session)
    {path : Text} (hstart : start setup disk refused path = .ok e) :
    (opening path).run.run (bare setup disk refused (session.tabs.length + 1) settings session) =
      (.ok (), e) := by
  obtain ⟨settings', session', hsettings', hsession', hopening⟩ := start_ok hstart
  cases hsettings.symm.trans hsettings'
  cases hsession.symm.trans hsession'
  exact hopening

theorem restored_start (hs : session.WellFormed)
    (hsession : disk.loadSession setup.freshId (Path.join setup.directory sessionFile) = .ok session)
    (hstart : start setup disk refused [] = .ok e) : Restored session e := by
  obtain ⟨settings, session', -, hsession', hopening⟩ := start_ok hstart
  cases hsession.symm.trans hsession'
  have hrestored := (restored_opening setup disk refused (session.tabs.length + 1) settings hs).1
  rwa [after, hopening] at hrestored

theorem exists_start (hs : session.WellFormed)
    (hsettings : disk.loadSettings (Path.join setup.directory settingsFile) = .ok settings)
    (hsession : disk.loadSession setup.freshId (Path.join setup.directory sessionFile) = .ok session)
    (htimers : refused.elem .startTimer = false) : ∃ e, start setup disk refused [] = .ok e := by
  obtain ⟨⟨⟩, hopened, -⟩ :=
    (restored_opening setup disk refused (session.tabs.length + 1) settings hs).2 htimers
  rw [start_eq hsettings hsession]
  generalize (opening []).run.run _ = result at hopened
  obtain ⟨x, e⟩ := result
  cases hopened
  exact ⟨e, rfl⟩

end

/-! ### From an editor to the next -/

/-- The id and the name of a tab that are read from a session file as they were written there. -/
def Lasting (id name : Text) : Prop := (Session.Kept id ∧ ¬ id.Paired) ∧ name ≠ []

theorem kept_replicate {c : CodePoint} (hblank : c.isBlank = false) (hc : c.isSurrogate = false)
    (k : Nat) :
    Session.Kept (List.replicate (k + 1) c) ∧ ¬ Text.Paired (List.replicate (k + 1) c) := by
  have hself : ∀ d ∈ List.replicate (k + 1) c, d = c := fun d hd => List.eq_of_mem_replicate hd
  refine ⟨⟨List.cons_ne_nil _ _, Text.strip_eq_self (fun d hd => ?_) fun d hd => ?_⟩,
    Json.not_paired_of_clean fun d hd => hself d hd ▸ hc⟩
  · exact hself d (List.mem_of_mem_head? hd) ▸ hblank
  · exact hself d (List.mem_of_getLast? hd) ▸ hblank

theorem renamable_lasting : Session.Renamable Lasting := fun _ _ _ h hname => ⟨h.1, hname⟩

section

variable {setup : Setup} {disk : Disk} {refused : List Command} {settings : Settings}
  {session : Session} {path : Text}

theorem hasSession_of_loadSession
    (hfresh : Session.Supplies setup.freshId (Session.wantedIds
      (disk.loadValue (Path.join setup.directory sessionFile))))
    (hkept : ∀ k, Session.Kept (setup.freshId k) ∧ ¬ (setup.freshId k).Paired)
    (hsession : disk.loadSession setup.freshId (Path.join setup.directory sessionFile) =
      .ok session) :
    HasSession Lasting (bare setup disk refused (session.tabs.length + 1) settings session) := by
  have hgiven := Session.given_ofJson hsession
  obtain ⟨-, session', hsession', hwellFormed, -⟩ | ⟨-, type, herror⟩ := Session.ofJson_cases hfresh
  · cases hsession.symm.trans hsession'
    refine ⟨hwellFormed, fun t ht => ⟨?_, (hgiven t ht).2⟩, hfresh.injective,
      fun k _ hname => ⟨hkept k, hname⟩, fun k hk hmem => ?_⟩
    · refine (hgiven t ht).1.elim (Q := fun id => Session.Kept id ∧ ¬ id.Paired)
        (fun id hid hne => ⟨⟨hne, ?_⟩, ?_⟩) hkept
      · exact Session.stripped_wantedIds _ id hid
      · exact Session.unpaired_wantedIds (Disk.unpaired_loadValue disk _) id hid
    · obtain ⟨t, ht, hid⟩ := List.mem_map.mp hmem
      obtain ⟨hused, -⟩ | ⟨j, hj, hfreshId⟩ := (hgiven t ht).1
      · exact hfresh.unused k (hid ▸ hused)
      · have hjk : j = k := hfresh.injective (hfreshId.symm.trans hid)
        have hlength : session.tabs.length + 1 ≤ k := hk
        omega
  · cases hsession.symm.trans herror

theorem setup_of_start {past : List (Editor × Event)} (hstart : start setup disk refused path = .ok e)
    (hrun : Run e past e') : e'.setup = setup := by
  obtain ⟨settings, session, -, -, hopening⟩ := start_ok hstart
  have hopened := stays_opening path (bare setup disk refused (session.tabs.length + 1) settings session)
  rw [after, hopening] at hopened
  exact hrun.stays.setup.trans hopened.setup

theorem matches_of_start {past : List (Editor × Event)}
    (hfresh : Session.Supplies setup.freshId (Session.wantedIds
      (disk.loadValue (Path.join setup.directory sessionFile))))
    (hkept : ∀ k, Session.Kept (setup.freshId k) ∧ ¬ (setup.freshId k).Paired)
    (hstart : start setup disk refused path = .ok e) (hrun : Run e past e')
    (hopen : e'.isOpen = true) : Matches Lasting e' := by
  obtain ⟨settings, session, -, hsession, hopening⟩ := start_ok hstart
  have hsynced : Synced Lasting False e :=
    synced_opening (hasSession_of_loadSession hfresh hkept hsession) renamable_lasting hopening
  exact ((hsynced.run renamable_lasting hrun fun hb => hb.elim) hopen).toMatches

theorem loadSession_of_shownSession {d : Disk} {q : Text} {fresh : Nat → Text}
    (h : Matches Lasting e)
    (hunpaired : ∀ p ∈ e.pages, ¬ p.title.Paired ∧ ¬ p.box.content.Paired)
    (hread : d.read q = .ok (e.shownSession.fileText.flatMap CodePoint.utf8)) :
    d.loadSession fresh q = .ok e.shownSession := by
  have hnamed : e.shownSession.Named Lasting := h.named.of_row (row_shownSession e)
  refine Disk.loadSession_of_read (wellFormed_shownSession h)
    (fun t ht => ⟨(hnamed t ht).1.1, (hnamed t ht).2⟩) (fun t ht => ⟨(hnamed t ht).1.2, ?_⟩) hread
  rw [(tabs_shownSession h).1] at ht
  obtain ⟨p, hp, rfl⟩ := List.mem_map.mp ht
  exact hunpaired p hp

end

/-- A new editor has the tabs of one that was closed: their ids and names, the texts of their pages,
and their order.  The active tab is the same, and its page is shown. -/
structure Resumes (e e' : Editor) : Prop where
  row : e'.session.row = e.session.row
  tabs : e'.session.tabs = e.pages.map Page.asTab
  pages : e'.pages.map Page.asTab = e.pages.map Page.asTab
  active : e'.session.activeId = e.session.activeId
  shown : e'.shownPage?.map Page.tab = some e.session.activeId

theorem Restored.resumes (hmatch : Matches P e) (h : Restored e.shownSession e') : Resumes e e' := by
  obtain ⟨htabs, hactive⟩ := tabs_shownSession hmatch
  refine ⟨?_, ?_, h.pages.trans htabs, ?_, h.shown.trans (congrArg some hactive)⟩
  · rw [h.session, row_shownSession]
  · rw [h.session, htabs]
  · rw [h.session, hactive]

theorem exists_saved_at_root {bytes : List UInt8} (hdirectory : e.setup.directory = "/")
    (hdisk : e.disk = ⟨[([sessionFile], .file bytes)]⟩) :
    ∃ d d', (Disk.saveSession (e.filePath sessionFile) e.shownSession).run.run e.disk =
        (.ok true, d) ∧
      (Disk.saveSettings (e.filePath settingsFile) e.settings).run.run d = (.ok true, d') := by
  have hsession : e.filePath sessionFile = "/jsonsmith_session.json" := by
    rw [filePath, hdirectory]
    decide +kernel
  have hsettings : e.filePath settingsFile = "/jsonsmith_settings.json" := by
    rw [filePath, hdirectory]
    decide +kernel
  rw [hsession, hsettings, hdisk]
  exact ⟨_, _,
    Disk.trySave_root (Json.clean_write _ _) (by decide) (by decide +kernel) rfl rfl rfl rfl,
    Disk.trySave_root (Json.clean_write _ _) (by decide) (by decide +kernel) rfl rfl rfl rfl⟩

theorem exists_close_at_root {bytes : List UInt8} (hdirectory : e.setup.directory = "/")
    (hdisk : e.disk = ⟨[([sessionFile], .file bytes)]⟩) (hdefault : e.settings = .default)
    (hopen : e.isOpen = true)
    (hstops : ((Debounce.cancel feedbackHost).run.run e).1.isOk = true) :
    SavesSession e ∧ ∃ e' settings, e.next? (.act (.close .main)) = some e' ∧
      e'.disk.loadSettings (e.filePath settingsFile) = .ok settings := by
  obtain ⟨s, hstops⟩ : ∃ s, (Debounce.cancel feedbackHost).run.run e = (.ok (), s) := by
    generalize (Debounce.cancel feedbackHost).run.run e = result at hstops ⊢
    obtain ⟨_ | ⟨⟨⟩⟩, s⟩ := result
    · cases hstops
    · exact ⟨s, rfl⟩
  obtain ⟨d, d', hsave, hsaveSettings⟩ := exists_saved_at_root hdirectory hdisk
  have hnumbers : Json.Denotable (.obj e.settings.toMembers) := hdefault ▸ Disk.denotable_default
  have hclose : e.next? (.act (.close .main)) = some _ := if_pos hopen
  obtain ⟨settings, hloaded⟩ := loadSettings_of_close ⟨s, hstops⟩ hsave hsaveSettings hnumbers hclose
  exact ⟨⟨⟨s, hstops⟩, d, hsave⟩, _, settings, hclose, hloaded⟩

theorem exists_start_of_read {setup : Setup} {disk : Disk} {settings : Settings} {s : Session}
    (hs : s.WellFormed) (hnamed : s.Named fun id name => Session.Kept id ∧ name ≠ [])
    (hunpaired : s.Unpaired)
    (hsettings : disk.loadSettings (Path.join setup.directory settingsFile) = .ok settings)
    (hread : disk.read (Path.join setup.directory sessionFile) =
      .ok (s.fileText.flatMap CodePoint.utf8)) :
    ∃ e₀, start setup disk [] [] = .ok e₀ ∧
      (opening []).run.run (bare setup disk [] (s.tabs.length + 1) settings s) = (.ok (), e₀) := by
  have hsession : disk.loadSession setup.freshId (Path.join setup.directory sessionFile) = .ok s :=
    Disk.loadSession_of_read hs hnamed hunpaired hread
  obtain ⟨e₀, hstart⟩ : ∃ e₀, start setup disk [] [] = .ok e₀ :=
    exists_start hs hsettings hsession rfl
  exact ⟨e₀, hstart, run_opening hsettings hsession hstart⟩

/-- A session that is changed in any way after it was made of a value, and is saved, is loaded as it
was.  So a new editor in the directory of one that was closed, whatever had happened to that, has its
tabs.  No high surrogate may stand before a low one in a text that is saved, and new ids have to be
such as a file keeps. -/
theorem restart_round_trip :
    (∀ {v : Json} {s₀ s : Session} {fresh : Nat → Text} {path : Text} {d d' : Disk},
      Session.Supplies fresh (Session.wantedIds v) → (∀ k, (fresh k).strip = fresh k) →
      Session.ofJson fresh v = .ok s₀ → Session.Reaches s₀ s →
      (∀ id ∈ s.ids, id ∉ s₀.ids → Session.Kept id) → s.Unpaired →
      (Disk.saveSession path s).run.run d = (.ok true, d') →
      ∀ fresh', d'.loadSession fresh' path = .ok s) ∧
    ∀ {setup : Setup} {disk : Disk} {refused : List Command} {path : Text} {e₀ e e' : Editor}
      {past : List (Editor × Event)},
      Session.Supplies setup.freshId (Session.wantedIds
        (disk.loadValue (Path.join setup.directory sessionFile))) →
      (∀ k, Session.Kept (setup.freshId k) ∧ ¬ (setup.freshId k).Paired) →
      start setup disk refused path = .ok e₀ → Run e₀ past e →
      SavesSession e → e.next? (.act (.close .main)) = some e' →
      (∀ p ∈ e.pages, ¬ p.title.Paired ∧ ¬ p.box.content.Paired) →
      ∀ (setup' : Setup) (refused' : List Command), setup'.directory = setup.directory →
        ((∃ settings, e'.disk.loadSettings (Path.join setup.directory settingsFile) = .ok settings) →
          refused'.elem .startTimer = false → ∃ r, start setup' e'.disk refused' [] = .ok r) ∧
        ∀ r, start setup' e'.disk refused' [] = .ok r → Resumes e r := by
  refine ⟨Disk.loadSession_of_saveSession, ?_⟩
  intro setup disk refused path e₀ e e' past hfresh hkept hstart hrun hsaves hclose hunpaired setup'
    refused' hdirectory
  have hmatch : Matches Lasting e :=
    matches_of_start hfresh hkept hstart hrun (isOpen_of_close hclose)
  have hpath : e.filePath sessionFile = Path.join setup'.directory sessionFile := by
    rw [filePath, setup_of_start hstart hrun, hdirectory]
  have hread := read_of_close hsaves hclose
  rw [hpath] at hread
  have hsession : e'.disk.loadSession setup'.freshId (Path.join setup'.directory sessionFile) =
      .ok e.shownSession := loadSession_of_shownSession hmatch hunpaired hread
  have hwellFormed : e.shownSession.WellFormed := wellFormed_shownSession hmatch
  refine ⟨fun ⟨settings, hsettings⟩ htimers => ?_, fun r hr => ?_⟩
  · rw [← hdirectory] at hsettings
    exact exists_start hwellFormed hsettings hsession htimers
  · exact (restored_start hwellFormed hsession hr).resumes hmatch

/-- A session that was loaded gets a new tab and loses another, and is saved.  An editor that was
started with it has one of its texts edited, with a lone surrogate, and that tab made the active one
before it is closed. -/
theorem restart_round_trip_edited :
    let saved : Session := ⟨⟨"a", "A", "x"⟩, [⟨"b", "B", []⟩], "b"⟩
    let changed : Session := (saved.add "c" [] "1").close "b"
    let setup : Setup :=
      ⟨.remote, "/", ⟨2000, 1, 1, 0, 0, 0⟩, fun n => List.replicate (n + 1) '#'⟩
    let disk : Disk := ⟨[([sessionFile], .file (saved.fileText.flatMap CodePoint.utf8))]⟩
    let text : Text := [CodePoint.ofNat 0xD800, '!']
    (∃ d, (Disk.saveSession "/s" changed).run.run .empty = (.ok true, d) ∧
      d.loadSession setup.freshId "/s" = .ok changed) ∧
    ∃ e₀ past e e' r, start setup disk [] [] = .ok e₀ ∧ Run e₀ past e ∧
      past.map Prod.snd = [.act (.edit 0 (.replace text)), .act (.show 0), .act (.wait 0)] ∧
      SavesSession e ∧ e.next? (.act (.close .main)) = some e' ∧
      start setup e'.disk [] [] = .ok r ∧ r.session.tabs = [⟨"a", "A", text⟩, ⟨"b", "B", []⟩] ∧
      r.session.activeId = "a" ∧ r.shownPage?.map Page.tab = some "a" := by
  intro saved changed setup disk text
  have hkept (k : Nat) : Session.Kept (setup.freshId k) ∧ ¬ (setup.freshId k).Paired :=
    kept_replicate (by decide) (by decide) k
  have hfresh : Session.Supplies setup.freshId (Session.wantedIds (.obj saved.toMembers)) :=
    Session.supplies_replicate (by decide +kernel)
  have hwellFormed : saved.WellFormed := ⟨by decide, by decide⟩
  have hnamed : saved.Named fun id name => Session.Kept id ∧ name ≠ [] := by
    have h : ∀ t ∈ saved.tabs, t.id ≠ [] ∧ t.id.strip = t.id ∧ t.name ≠ [] := by decide
    exact fun t ht => ⟨⟨(h t ht).1, (h t ht).2.1⟩, (h t ht).2.2⟩
  refine ⟨?_, ?_⟩
  · have hreaches : Session.Reaches saved changed :=
      .step (.close "b") (.step (.add "c" [] "1") .start fun _ => by decide) nofun
    have hnew : ∀ id ∈ changed.ids, id ∉ saved.ids → Session.Kept id := by
      have h : ∀ id ∈ changed.ids, id ∉ saved.ids → id ≠ [] ∧ id.strip = id := by decide
      exact fun id hid hold => ⟨(h id hid hold).1, (h id hid hold).2⟩
    have hsave : (Disk.saveSession "/s" changed).run.run .empty = (.ok true, _) :=
      Disk.trySave_root (Json.clean_write _ _) (by decide) (by decide +kernel) rfl rfl rfl rfl
    exact ⟨_, hsave, restart_round_trip.1 hfresh (fun k => (hkept k).1.stripped)
      (Session.ofJson_toMembers hwellFormed hnamed) hreaches hnew
      (Session.unpaired_of_clean (by decide)) hsave _⟩
  have hread : disk.read (Path.join setup.directory sessionFile) =
      .ok (saved.fileText.flatMap CodePoint.utf8) := by
    have hpath : Path.join setup.directory sessionFile = "/jsonsmith_session.json" := by
      decide +kernel
    rw [hpath]
    rfl
  have hunpaired : saved.Unpaired := Session.unpaired_of_clean (by decide)
  have hstorable := Session.storable_toMembers hunpaired hwellFormed.active
  rw [← Disk.loadValue_of_storable hstorable hread] at hfresh
  obtain ⟨e₀, hstart, hopening⟩ := exists_start_of_read hwellFormed hnamed hunpaired rfl hread
  let events : List Event := [.act (.edit 0 (.replace text)), .act (.show 0), .act (.wait 0)]
  have hscene : ((after (opening []) (bare setup disk [] 3 .default saved)).follow events).map
      (fun e => decide (e.pages.map Page.asTab = [⟨"a", "A", text⟩, ⟨"b", "B", []⟩] ∧
        e.session.activeId = Text.ofString "a" ∧ e.settings = .default ∧
        e.disk.entries = disk.entries ∧ e.isOpen = true ∧
        ((Debounce.cancel feedbackHost).run.run e).1.isOk = true)) = some true := by
    decide +kernel
  rw [after, show (opening []).run.run (bare setup disk [] 3 .default saved) = _ from hopening]
    at hscene
  obtain ⟨e, hfollow, hscene⟩ := Option.map_eq_some_iff.mp hscene
  obtain ⟨hpages, hactive, hdefault, hdisk, hopen, hstops⟩ := of_decide_eq_true hscene
  obtain ⟨past, hrun, hevents⟩ := run_of_follow hfollow
  have hsetup : e.setup = setup := setup_of_start hstart hrun
  obtain ⟨hsaves, e', settings, hclose, hloaded⟩ :=
    exists_close_at_root (by rw [hsetup]) (congrArg Disk.mk hdisk) hdefault hopen hstops
  rw [filePath, hsetup] at hloaded
  have htabs : ∀ t ∈ e.pages.map Page.asTab, ¬ t.name.Paired ∧ ¬ t.content.Paired := by
    have htext : ¬ text.Paired := by
      rw [Text.paired_cons_cons]
      exact not_or.mpr ⟨by decide, Text.not_paired_singleton _⟩
    rw [hpages]
    exact List.forall_mem_cons.mpr ⟨⟨Session.not_paired_of_any rfl, htext⟩,
      List.forall_mem_singleton.mpr ⟨Session.not_paired_of_any rfl, Session.not_paired_of_any rfl⟩⟩
  obtain ⟨hstarts, hresumes⟩ := restart_round_trip.2 hfresh hkept hstart hrun hsaves hclose
    (fun p hp => htabs p.asTab (List.mem_map_of_mem hp)) setup [] rfl
  obtain ⟨r, hr⟩ := hstarts ⟨settings, hloaded⟩ rfl
  have hresumed := hresumes r hr
  exact ⟨e₀, past, e, e', r, hstart, hrun, hevents, hsaves, hclose, hr, hresumed.tabs.trans hpages,
    hresumed.active.trans hactive, hresumed.shown.trans (congrArg some hactive)⟩

end Editor

end JsonDesk
