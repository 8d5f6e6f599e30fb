import JsonDesk.Proofs.SessionFiles
import JsonDesk.Proofs.TabsInStep

set_option autoImplicit false

namespace JsonDesk

open EditorM

def Page.asTab (p : Page) : Tab := ⟨p.tab, p.title, p.box.content⟩

namespace Editor

variable {P : Text → Text → Prop} {e e' : Editor}

/-- The session with the texts that the pages show. -/
def shownSession (e : Editor) : Session :=
  e.pages.foldl (fun s p => s.update p.tab p.box.content) e.session

/-- Closing writes the session file: the timer of the live feedback can be stopped, if it runs, and
the disk takes the file. -/
structure SavesSession (e : Editor) : Prop where
  stops : ∃ s, (Debounce.cancel feedbackHost).run.run e = (.ok (), s)
  saves : ∃ d, (Disk.saveSession (e.filePath sessionFile) e.shownSession).run.run e.disk = (.ok true, d)

theorem tabs_foldl_update {pages : List Page} {s : Session} {done rest : List Tab}
    (hids : s.ids.Nodup) (htabs : s.tabs = done ++ rest)
    (hrows : rest.map Tab.row = pages.map Page.row) :
    (pages.foldl (fun s p => s.update p.tab p.box.content) s).tabs = done ++ pages.map Page.asTab ∧
      (pages.foldl (fun s p => s.update p.tab p.box.content) s).activeId = s.activeId := by
  induction pages generalizing s done rest with
  | nil =>
    rw [List.map_nil, List.map_eq_nil_iff] at hrows
    subst hrows
    exact ⟨htabs, rfl⟩
  | cons p pages ih =>
    obtain ⟨t, rest, rfl, ht, hrest⟩ := List.map_eq_cons_iff.mp hrows
    have hid : t.id = p.tab := congrArg Prod.fst ht
    have hname : t.name = p.title := congrArg Prod.snd ht
    have hupdated : (s.update p.tab p.box.content).tabs = (done ++ [p.asTab]) ++ rest := by
      rw [Session.update, ← hid, Session.tabs_modify_of_split hids htabs, hid, hname]
      simp [Page.asTab]
    have hsame : (s.update p.tab p.box.content).ids = s.ids :=
      Session.ids_eq_of_row (s.row_update _ _)
    obtain ⟨htabs', hactive⟩ := ih (hsame ▸ hids) hupdated hrest
    refine ⟨by simpa using htabs', hactive.trans ?_⟩
    exact (Session.tabs_modify _ _ _).2

theorem tabs_shownSession (h : Matches P e) :
    e.shownSession.tabs = e.pages.map Page.asTab ∧ e.shownSession.activeId = e.session.activeId :=
  tabs_foldl_update h.wellFormed.nodup (List.nil_append _).symm h.row.symm

theorem row_shownSession (e : Editor) : e.shownSession.row = e.session.row := by
  unfold shownSession
  generalize e.session = s
  induction e.pages generalizing s with
  | nil => rfl
  | cons p pages ih => rw [List.foldl_cons, ih, Session.row_update]

theorem wellFormed_shownSession (h : Matches P e) : e.shownSession.WellFormed := by
  have hids : e.shownSession.ids = e.session.ids := Session.ids_eq_of_row (row_shownSession e)
  exact h.wellFormed.of_ids_eq hids ((tabs_shownSession h).2 ▸ h.wellFormed.active)

/-! ### What is on the disk then -/

/-- Only timers of the editor are other ones. -/
def SameButTimers (e e' : Editor) : Prop :=
  e' = { e with
    timers := e'.timers, timersStarted := e'.timersStarted, feedbackTimer := e'.feedbackTimer }

instance : IsPreorder Editor SameButTimers where
  refl _ := rfl
  trans _ _ _ h h' := by
    rw [SameButTimers, h', h]

theorem sameButTimers_feedbackHost : HostLeads SameButTimers feedbackHost where
  start delay _ e := by
    show SameButTimers e (after (startTimer none delay .feedback) e)
    obtain h | h := after_startTimer none delay .feedback e
    · rw [h]
      exact refl_of SameButTimers e
    · rw [h]
      rfl
  stop _ := .bind (.attempt _) fun _ => .modify fun _ => rfl
  pending := .get fun _ => .pure _
  setPending _ := .modify fun _ => rfl

def SameDisk (e e' : Editor) : Prop := e'.disk = e.disk

instance : IsPreorder Editor SameDisk where
  refl _ := rfl
  trans _ _ _ h h' := h'.trans h

theorem run_onDisk {α : Type} (m : DiskM α) (e : Editor) : (onDisk m).run.run e =
    ((m.run.run e.disk).1, { e with disk := (m.run.run e.disk).2 }) := by
  have hrun : (onDisk m).run.run e = (MonadExcept.ofExcept (m.run.run e.disk).1 : EditorM α).run.run
      { e with disk := (m.run.run e.disk).2 } := rfl
  rw [hrun]
  cases (m.run.run e.disk).1 <;> rfl

theorem after_onDisk {α : Type} (m : DiskM α) (e : Editor) :
    after (onDisk m) e = { e with disk := (m.run.run e.disk).2 } :=
  congrArg Prod.snd (run_onDisk m e)

theorem run_saveSession {d : Disk}
    (h : (Disk.saveSession (e.filePath sessionFile) e.shownSession).run.run e.disk = (.ok true, d)) :
    saveSession.run.run e = (.ok (), { e with session := e.shownSession, disk := d }) := by
  let shown : Editor := { e with session := e.shownSession }
  have hrun : saveSession.run.run e = (onDisk (Disk.saveSession (e.filePath sessionFile)
      e.shownSession) >>= fun _ => pure ()).run.run shown := rfl
  have hsave : (onDisk (Disk.saveSession (e.filePath sessionFile) e.shownSession)).run.run shown =
      (.ok true, { shown with disk := d }) := by
    rw [run_onDisk, h]
  rw [hrun, run_bind hsave]
  rfl

theorem disk_saveSettings (e : Editor) : (after saveSettings e).disk =
    ((Disk.saveSettings (e.filePath settingsFile) e.settings).run.run e.disk).2 := by
  have hafter : after saveSettings e = after (onDisk (Disk.saveSettings (e.filePath settingsFile)
      e.settings) >>= fun _ => pure ()) e := rfl
  rw [hafter, after_bind, after_onDisk]
  split <;> rfl

theorem plain_sessionFile : Path.Plain sessionFile := ⟨by decide, by decide, by decide, by decide⟩

theorem plain_settingsFile : Path.Plain settingsFile := ⟨by decide, by decide, by decide, by decide⟩

theorem not_touches_settings : ¬ Disk.Touches settingsFile sessionFile := by
  rintro (heq | ⟨k, heq⟩)
  · exact absurd heq (by decide)
  · have hhead : sessionFile.head? = some (CodePoint.ofChar '.') := heq ▸ rfl
    exact absurd hhead (by decide)

theorem isOpen_of_close (h : e.next? (.act (.close .main)) = some e') : e.isOpen = true := by
  simp only [next?, step?] at h
  split at h
  · next hallows => exact hallows
  · cases h

theorem disk_of_close {d : Disk} (hs : ∃ s, (Debounce.cancel feedbackHost).run.run e = (.ok (), s))
    (hsave : (Disk.saveSession (e.filePath sessionFile) e.shownSession).run.run e.disk = (.ok true, d))
    (hclose : e.next? (.act (.close .main)) = some e') :
    e'.disk = ((Disk.saveSettings (e.filePath settingsFile) e.settings).run.run d).2 := by
  obtain ⟨s, hcancel⟩ := hs
  have hafter : after (Debounce.cancel feedbackHost) e = s := congrArg Prod.snd hcancel
  have hsame : SameButTimers e s := hafter ▸ sameButTimers_feedbackHost.cancel e
  have hsaved : saveSession.run.run s = (.ok (), { s with session := s.shownSession, disk := d }) := by
    refine run_saveSession ?_
    rw [hsame]
    exact hsave
  have hfinish : Leads SameDisk (do
      modify fun e => { e with client := e.client.close }
      destroyScreen) :=
    .bind (.modify fun _ => rfl) fun _ => .bind (.attempt _) fun _ => .modify fun _ => rfl
  have hclosed : (after closeEditor e).disk = (after saveSettings
      { s with session := s.shownSession, disk := d }).disk := by
    have hboth : after (do saveSession; saveSettings) s = after saveSettings
        { s with session := s.shownSession, disk := d } := congrArg Prod.snd (run_bind hsaved)
    have hstopped : after closeEditor e = after (tryFinally (do saveSession; saveSettings) (do
        modify fun e => { e with client := e.client.close }
        destroyScreen)) s := congrArg Prod.snd (run_bind hcancel)
    rw [hstopped, after_tryFinally, hfinish _, hboth]
  have hsettings := disk_saveSettings { s with session := s.shownSession, disk := d }
  have hpath : s.filePath settingsFile = e.filePath settingsFile := by
    rw [hsame]
    rfl
  have hsame' : s.settings = e.settings := by rw [hsame]
  simp only [next?, step?] at hclose
  split at hclose
  · cases hclose
    obtain ⟨ns, hcall⟩ := call_eq_after closeEditor e
    show (call closeEditor e).2.disk = _
    rw [hcall]
    refine hclosed.trans (hsettings.trans ?_)
    show ((Disk.saveSettings (s.filePath settingsFile) s.settings).run.run d).2 = _
    rw [hpath, hsame']
  · cases hclose

theorem read_of_close (hs : SavesSession e) (hclose : e.next? (.act (.close .main)) = some e') :
    e'.disk.read (e.filePath sessionFile) = .ok (e.shownSession.fileText.flatMap CodePoint.utf8) := by
  obtain ⟨d, hsave⟩ := hs.saves
  rw [disk_of_close hs.stops hsave hclose]
  exact (Disk.sparing_trySave plain_settingsFile _ d).read plain_sessionFile not_touches_settings
    (Disk.read_of_saveSession hsave)

theorem loadSettings_of_close {d d' : Disk}
    (hs : ∃ s, (Debounce.cancel feedbackHost).run.run e = (.ok (), s))
    (hsession : (Disk.saveSession (e.filePath sessionFile) e.shownSession).run.run e.disk =
      (.ok true, d))
    (hsettings : (Disk.saveSettings (e.filePath settingsFile) e.settings).run.run d = (.ok true, d'))
    (hnumbers : Json.Denotable (.obj e.settings.toMembers))
    (hclose : e.next? (.act (.close .main)) = some e') :
    ∃ settings, e'.disk.loadSettings (e.filePath settingsFile) = .ok settings := by
  rw [disk_of_close hs hsession hclose, hsettings]
  exact Disk.loadSettings_of_saveSettings hnumbers hsettings

end Editor

end JsonDesk
