import JsonDesk.Proofs.Awaiting
import JsonDesk.Proofs.StatusArea

set_option autoImplicit false

namespace JsonDesk

open EditorM

namespace Editor

/-- No run is begun, and no verdict or statistics are shown anew. -/
structure Steady (e e' : Editor) : Prop where
  setup : e'.setup = e.setup
  run : e'.run = e.run
  isOpen : e'.isOpen = true → e.isOpen = true
  validity : e'.status.validity = e.status.validity
  location : e'.status.location = e.status.location
  message : e'.status.message = e.status.message
  stats : e'.status.stats = e.status.stats

instance : IsPreorder Editor Steady where
  refl _ := ⟨rfl, rfl, id, rfl, rfl, rfl, rfl⟩
  trans _ _ _ h h' :=
    ⟨h'.setup.trans h.setup, h'.run.trans h.run, fun hopen => h.isOpen (h'.isOpen hopen),
      h'.validity.trans h.validity, h'.location.trans h.location, h'.message.trans h.message,
      h'.stats.trans h.stats⟩

theorem steady_of_status {e e' : Editor} (h : SameStatus e e') : Steady e e' := by
  obtain ⟨hcore, hstatus⟩ := h
  have hopen : e'.isOpen = e.isOpen := congrArg Core.isOpen hcore
  refine ⟨congrArg Core.setup hcore, congrArg Core.run hcore, fun h => hopen ▸ h, ?_, ?_, ?_, ?_⟩
  all_goals rw [hstatus]

theorem steady_ignoresRequests : IgnoresRequests Steady :=
  fun _ _ _ _ _ _ _ => ⟨rfl, rfl, id, rfl, rfl, rfl, rfl⟩

theorem ShowsVerdict.steady {e e' : Editor} {t : Text} {theme : Theme}
    (h : e.ShowsVerdict t theme) (hs : Steady e e') : e'.ShowsVerdict t theme :=
  ⟨hs.validity.trans h.validity, hs.location.trans h.location, hs.message.trans h.message⟩

/-- What a run of live feedback leaves alone while it asks and shows. -/
structure SameDesk (e e' : Editor) : Prop where
  setup : e'.setup = e.setup
  isOpen : e'.isOpen = e.isOpen
  run : e'.run = e.run
  settings : e'.settings = e.settings
  session : e'.session = e.session

instance : IsPreorder Editor SameDesk where
  refl _ := ⟨rfl, rfl, rfl, rfl, rfl⟩
  trans _ _ _ h h' :=
    ⟨h'.setup.trans h.setup, h'.isOpen.trans h.isOpen, h'.run.trans h.run,
      h'.settings.trans h.settings, h'.session.trans h.session⟩

theorem sameDesk_ignoresRequests : IgnoresRequests SameDesk :=
  fun _ _ _ _ _ _ _ => ⟨rfl, rfl, rfl, rfl, rfl⟩

/-- What is due to a reply of live feedback while a run is the newest and has captured a text. -/
def Due (run : Nat) (text : Text) : Reply → Json → Prop
  | .verdict m _ content, payload =>
    m ≤ run ∧ payload = .obj (Report.ofText content).toMembers ∧ (m = run → content = text)
  | .stats m, payload => m ≤ run ∧ (m = run → payload = .obj (Stats.ofText text).toMembers)
  | _, _ => True

theorem due_next {run : Nat} {text : Text} {r : Reply} {payload : Json} (h : Due run text r payload)
    (text' : Text) : Due (run + 1) text' r payload := by
  cases r with
  | verdict m tab content =>
    have hle : m ≤ run := h.1
    exact ⟨by omega, h.2.1, by omega⟩
  | stats m =>
    have hle : m ≤ run := h.1
    exact ⟨by omega, by omega⟩
  | _ => trivial

theorem due_other {run : Nat} {text : Text} {r : Reply} (h : r.feedbackRun? = none)
    (payload : Json) : Due run text r payload := by
  cases r with
  | verdict => cases h
  | stats => cases h
  | _ => trivial

theorem due_feedbackRun {run m : Nat} {text : Text} {r : Reply} {payload : Json}
    (h : Due run text r payload) (hr : r.feedbackRun? = some m) : m ≤ run := by
  cases r with
  | verdict => cases hr; exact h.1
  | stats => cases hr; exact h.1
  | _ => cases hr

end Editor

open Editor

namespace EditorM

theorem admits_steady : Admits Steady fun _ => True where
  calm hc := steady_of_status ⟨hc.core, hc.status⟩
  startTimer _ _ _ _ _ := steady_ignoresRequests.startTimer _ _ _ _
  dropTimers e _ := steady_ignoresRequests.dropTimers e _
  dropRequests e _ _ := steady_ignoresRequests.dropRequests e _
  ask _ _ _ _ _ _ hh := steady_ignoresRequests.ask _ _ _ hh
  warn _ := .bind (.ofExcept _) fun _ => .ite
    (fun _ => .setLabel fun _ => ⟨rfl, rfl, id, rfl, rfl, rfl, rfl⟩) fun _ => .pure _
  openWindow _ _ := ⟨rfl, rfl, id, rfl, rfl, rfl, rfl⟩
  useWindow _ _ _ := ⟨rfl, rfl, id, rfl, rfl, rfl, rfl⟩
  leaveWindow _ := ⟨rfl, rfl, id, rfl, rfl, rfl, rfl⟩
  loseAny _ _ := ⟨rfl, rfl, id, rfl, rfl, rfl, rfl⟩
  close _ := ⟨rfl, rfl, (fun h => by cases h), rfl, rfl, rfl, rfl⟩

theorem shows_sameDesk : Shows SameDesk where
  changeBox n f := by
    refine .bind (.useBox _) fun b => .bind (.modify fun e => ?_) fun _ => .ite
      (fun _ _ => ⟨rfl, rfl, rfl, rfl, rfl⟩) fun _ => .pure _
    cases n <;> exact ⟨rfl, rfl, rfl, rfl, rfl⟩
  setLabel _ _ := .setLabel fun _ => ⟨rfl, rfl, rfl, rfl, rfl⟩
  notice _ _ := ⟨rfl, rfl, rfl, rfl, rfl⟩
  logReport content report := by
    have hdisk {α : Type} (m : DiskM α) : Leads SameDesk (onDisk m) :=
      .get fun _ => .bind (.modify fun _ => ⟨rfl, rfl, rfl, rfl, rfl⟩) fun _ => .ofExcept _
    intro e
    unfold logReport
    rw [after_get_bind]
    split
    · have hset : SameDesk e { e with lastLogged := some content } := ⟨rfl, rfl, rfl, rfl, rfl⟩
      exact trans_of SameDesk hset (Leads.bind (hdisk _) (fun _ => .pure _) _)
    · exact refl_of SameDesk e

/-! ### A run of live feedback -/

def askFeedback (run : Nat) (tab content : Text) : EditorM Unit := do
  ask .validate (.str content) (.verdict run tab content) (applyVerdict run tab content)
  ask .stats (.str content) (.stats run) (applyStats run)

theorem after_feedback (e : Editor) : after feedback e =
    after (askFeedback (e.run + 1) e.session.activeTab.id (e.tabText e.session.activeTab.id))
      { e with run := e.run + 1 } := by
  unfold feedback
  rw [after_get_bind, after_set_bind]
  rfl

theorem sameDesk_askFeedback (run : Nat) (tab content : Text) :
    Leads SameDesk (askFeedback run tab content) :=
  .bind (fun _ => sameDesk_ignoresRequests.ask _ _ _ fun _ _ => shows_sameDesk.applyVerdict _ _ _ _)
    fun _ _ => sameDesk_ignoresRequests.ask _ _ _ fun _ _ => shows_sameDesk.applyStats _ _

theorem bears_askFeedback (run : Nat) (tab content : Text) :
    Leads (Bears (Due run content)) (askFeedback run tab content) := by
  refine .bind
    (fun _ => bears_ask _ _ ?_ fun _ _ => bears_of_core (shows_core.applyVerdict _ _ _ _))
    fun _ _ => bears_ask _ _ ?_ fun _ _ => bears_of_core (shows_core.applyStats _ _)
  · intro result hserve
    cases hserve
    exact ⟨Nat.le_refl _, rfl, fun _ => rfl⟩
  · intro result hserve
    cases hserve
    exact ⟨Nat.le_refl _, fun _ => rfl⟩

theorem attains_askFeedback {e : Editor} (hengine : e.setup.engine = .inline)
    (hidle : e.client.waiting = []) (hopen : e.isOpen = true) (tab content : Text) :
    Attains (fun s => s.ShowsReport content e.settings.theme (Stats.ofText content).text)
      (askFeedback e.run tab content) e := by
  have hverdict := attains_applyVerdict
    (e := { e with idsTaken := e.idsTaken + 1, client := .empty }) hopen tab content content
  have hcore := hverdict.and (shows_core.applyVerdict e.run tab content _ _)
  refine (attains_ask hengine hidle rfl _ hcore).bind fun _ s hs => ?_
  obtain ⟨hshows, hsame⟩ := hs
  have hrun : s.run = e.run := congrArg Core.run hsame
  have hengine' : s.setup.engine = .inline :=
    (congrArg (fun c => c.setup.engine) hsame).trans hengine
  have hidle' : s.client.waiting = [] := congrArg (fun c => c.client.waiting) hsame
  have hopen' : s.isOpen = true := (congrArg Core.isOpen hsame).trans hopen
  have hstats := attains_applyStats
    (e := { s with idsTaken := s.idsTaken + 1, client := .empty }) hopen' content
  rw [← hrun]
  refine (attains_ask hengine' hidle' rfl _ hstats).imp fun s' hs' => ?_
  refine ⟨⟨?_, ?_, ?_⟩, fun hvalid => ?_, ?_⟩
  all_goals rw [hs']
  exacts [hshows.validity, hshows.location, hshows.message, hshows.suggestion hvalid]

theorem sameDesk_feedback (e : Editor) :
    SameDesk { e with run := e.run + 1 } (after feedback e) := by
  rw [after_feedback]
  exact sameDesk_askFeedback _ _ _ _

theorem awaits_feedback {e : Editor} {text : Text} (h : Awaits (Due e.run text) e) :
    Awaits (Due (e.run + 1) (e.tabText e.session.activeTab.id)) (after feedback e) := by
  have hnext : Awaits (Due (e.run + 1) (e.tabText e.session.activeTab.id))
      { e with run := e.run + 1 } :=
    (h.imp fun r payload hdue => due_next hdue _).less (fun _ hw => hw) (fun _ ht => ht) rfl
  rw [after_feedback]
  exact bears_askFeedback _ _ _ _ hnext

theorem shown_feedback {e : Editor} (hengine : e.setup.engine = .inline)
    (hidle : e.client.waiting = []) (hopen : e.isOpen = true) :
    (after feedback e).ShowsReport (e.tabText e.session.activeTab.id) e.settings.theme
      (Stats.ofText (e.tabText e.session.activeTab.id)).text := by
  rw [after_feedback]
  exact (attains_askFeedback (e := { e with run := e.run + 1 }) hengine hidle hopen _ _).after

theorem run_stale {r : Reply} {m : Nat} (hr : r.feedbackRun? = some m) {e : Editor}
    (hne : m ≠ e.run) (payload : Json) : (r.handle payload).run.run e = (.ok (), e) := by
  cases r with
  | verdict run tab content =>
    cases hr
    show (if m = e.run then _ else pure () : EditorM Unit).run.run e = _
    rw [if_neg hne]
    rfl
  | stats run =>
    cases hr
    show (if m = e.run then _ else pure () : EditorM Unit).run.run e = _
    rw [if_neg hne]
    rfl
  | _ => cases hr

end EditorM

namespace Editor

variable {e e' : Editor} {event : Event} {r : Reply} {payload : Json}

/-- A reply to an older run is dropped. -/
theorem Delivers.stale {m : Nat} (h : Delivers e r payload event)
    (hr : r.feedbackRun? = some m) (hm : m ≠ e.run) (hnext : e.next? event = some e') :
    ∃ c timers now, (∀ w ∈ c.waiting, w ∈ e.client.waiting) ∧ (∀ t ∈ timers, t ∈ e.timers) ∧
      e' = { e with client := c, timers := timers, now := now } :=
  h.dropped hnext fun c timers now =>
    run_stale hr (e := { e with client := c, timers := timers, now := now }) hm payload

theorem Delivers.follows_core {m : Nat} (h : Delivers e r payload event)
    (hr : r.feedbackRun? = some m) (hnext : e.next? event = some e') :
    e'.run = e.run ∧ e'.isOpen = e.isOpen ∧ ∀ P, Awaits P e → Awaits P e' := by
  obtain ⟨c, timers, now, hwaiting, htimers, hcall⟩ := h.next?_eq hnext
  obtain ⟨ns, hafter⟩ := call_eq_after (r.handle payload)
    { e with client := c, timers := timers, now := now }
  have hcore : SameCore { e with client := c, timers := timers, now := now } e' := by
    rw [hcall, hafter]
    cases r with
    | verdict run tab content => exact shows_core.applyVerdict _ _ _ _ _
    | stats run => exact shows_core.applyStats _ _ _
    | _ => cases hr
  refine ⟨congrArg Core.run hcore, congrArg Core.isOpen hcore, fun P hP => ?_⟩
  have htaken : Awaits P { e with client := c, timers := timers, now := now } :=
    hP.less hwaiting htimers rfl
  exact htaken.of_core hcore

theorem Delivers.verdict_shown {tab content text : Text}
    (h : Delivers e (.verdict e.run tab content) (.obj (Report.ofText text).toMembers) event)
    (hnext : e.next? event = some e') (hopen : e.isOpen = true) :
    e'.ShowsReport text e.settings.theme e.status.stats := by
  obtain ⟨c, timers, now, -, -, hcall⟩ := h.next?_eq hnext
  obtain ⟨ns, hafter⟩ := call_eq_after
    (applyVerdict e.run tab content (.obj (Report.ofText text).toMembers))
    { e with client := c, timers := timers, now := now }
  have hshown := (attains_applyVerdict
    (e := { e with client := c, timers := timers, now := now }) hopen tab content text).after
  rw [hcall.trans hafter]
  exact hshown.of_status rfl

theorem Delivers.stats_shown {text : Text}
    (h : Delivers e (.stats e.run) (.obj (Stats.ofText text).toMembers) event)
    (hnext : e.next? event = some e') (hopen : e.isOpen = true) :
    e'.status = { e.status with stats := (Stats.ofText text).text } := by
  obtain ⟨c, timers, now, -, -, hcall⟩ := h.next?_eq hnext
  obtain ⟨ns, hafter⟩ := call_eq_after
    (applyStats e.run (.obj (Stats.ofText text).toMembers))
    { e with client := c, timers := timers, now := now }
  have hshown := (attains_applyStats
    (e := { e with client := c, timers := timers, now := now }) hopen text).after
  have heq := hcall.trans hafter
  rw [heq]
  exact hshown

end Editor

end JsonDesk
