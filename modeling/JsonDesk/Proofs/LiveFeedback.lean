import JsonDesk.Proofs.FeedbackRuns

/-!
Live feedback shows the newest run only.  Runs are begun by a timer, by a change of tabs or of the
theme, while replies of older runs are still to come; the invariant ties the replies that are still
to come, and what the status area shows, to the number of the newest run and to its text.
-/

set_option autoImplicit false

namespace JsonDesk

open EditorM

namespace Editor

/-- A run was begun and captured a text, that of the tab which was active then. -/
def Captured (past : List (Editor × Event)) (run : Nat) (text : Text) : Prop :=
  ∃ s event s', (s, event) ∈ past ∧ s.next? event = some s' ∧ s.run < run ∧ s'.run = run ∧
    s.tabText s'.session.activeTab.id = text

/-- A reply to a run has come while the theme was this one: it was delivered, or else an inline
engine served it when the run was begun. -/
inductive HasCome (past : List (Editor × Event)) (run : Nat) (p : Reply → Prop) : Theme → Prop
  | delivered {s : Editor} {event : Event} {r : Reply} {payload : Json} : (s, event) ∈ past →
    Delivers s r payload event → p r → HasCome past run p s.settings.theme
  | atOnce {s s' : Editor} {event : Event} : (s, event) ∈ past → s.next? event = some s' →
    s.run < run → s'.run = run → s'.setup.engine = .inline → HasCome past run p s'.settings.theme

variable {past : List (Editor × Event)} {e e' : Editor} {event : Event} {run : Nat}
  {p : Reply → Prop} {theme : Theme}

theorem captured_append_iff (hnext : e.next? event = some e') {text : Text} :
    Captured (past ++ [(e, event)]) run text ↔ Captured past run text ∨
      (e.run < run ∧ e'.run = run ∧ e.tabText e'.session.activeTab.id = text) :=
  exists_step_concat_iff hnext

theorem HasCome.append (h : HasCome past run p theme) (more : List (Editor × Event)) :
    HasCome (past ++ more) run p theme := by
  cases h with
  | delivered hmem hd hp => exact .delivered (List.mem_append_left _ hmem) hd hp
  | atOnce hmem hs hlt hrun hengine =>
    exact .atOnce (List.mem_append_left _ hmem) hs hlt hrun hengine

theorem HasCome.of_append (hnext : e.next? event = some e')
    (h : HasCome (past ++ [(e, event)]) run p theme) : HasCome past run p theme ∨
      (∃ r payload, Delivers e r payload event ∧ p r) ∨
        (e.run < run ∧ e'.run = run ∧ e'.setup.engine = .inline) := by
  cases h with
  | @delivered s before r payload hmem hd hp =>
    cases List.mem_append.mp hmem with
    | inl hmem => exact .inl (.delivered hmem hd hp)
    | inr hmem =>
      cases List.mem_singleton.mp hmem
      exact .inr (.inl ⟨r, payload, hd, hp⟩)
  | @atOnce s s' before hmem hs hlt hrun hengine =>
    cases List.mem_append.mp hmem with
    | inl hmem => exact .inl (.atOnce hmem hs hlt hrun hengine)
    | inr hmem =>
      cases List.mem_singleton.mp hmem
      cases hs.symm.trans hnext
      exact .inr (.inr ⟨hlt, hrun, hengine⟩)

def VerdictOf (run : Nat) (r : Reply) : Prop := ∃ tab content, r = .verdict run tab content

def StatsOf (run : Nat) (r : Reply) : Prop := r = .stats run

/-- No run but this and older ones was begun by an event, or had a reply delivered. -/
structure UpTo (run : Nat) (p : Editor × Event) : Prop where
  begun : ∀ s', p.1.next? p.2 = some s' → s'.run ≤ run
  delivered : ∀ r payload m, Delivers p.1 r payload p.2 → r.feedbackRun? = some m → m ≤ run

theorem UpTo.next {p : Editor × Event} (h : UpTo run p) : UpTo (run + 1) p where
  begun s' hs := Nat.le_succ_of_le (h.begun s' hs)
  delivered r payload m hd hr := Nat.le_succ_of_le (h.delivered r payload m hd hr)

/-- While a run is the newest and has captured a text, all that is still to come for it is due to
that text, and so is what is shown of it. -/
structure Follows (past : List (Editor × Event)) (e : Editor) (text : Text) : Prop where
  awaits : Awaits (Due e.run text) e
  upTo : ∀ p ∈ past, UpTo e.run p
  captured : ∀ t, Captured past e.run t ↔ e.run ≠ 0 ∧ t = text
  verdict : e.isOpen = true → ∀ theme, HasCome past e.run (VerdictOf e.run) theme →
    ∃ theme, HasCome past e.run (VerdictOf e.run) theme ∧ e.ShowsVerdict text theme
  stats : e.isOpen = true → ∀ theme, HasCome past e.run (StatsOf e.run) theme →
    e.status.stats = (Stats.ofText text).text

namespace Follows

variable {text : Text}

theorem step (h : Follows past e text) (hnext : e.next? event = some e') (hrun : e'.run = e.run)
    (hawaits : Awaits (Due e.run text) e')
    (hdue : ∀ r payload, Delivers e r payload event → Due e.run text r payload)
    (hverdict : e'.isOpen = true → ∀ theme,
      HasCome (past ++ [(e, event)]) e.run (VerdictOf e.run) theme →
      ∃ theme, HasCome (past ++ [(e, event)]) e.run (VerdictOf e.run) theme ∧
        e'.ShowsVerdict text theme)
    (hstats : e'.isOpen = true → ∀ theme,
      HasCome (past ++ [(e, event)]) e.run (StatsOf e.run) theme →
      e'.status.stats = (Stats.ofText text).text) : Follows (past ++ [(e, event)]) e' text where
  awaits := by rwa [hrun]
  upTo := by
    rw [hrun]
    refine List.forall_mem_append.mpr ⟨h.upTo, List.forall_mem_singleton.mpr ⟨?_, ?_⟩⟩
    · intro s' hs
      cases hs.symm.trans hnext
      exact Nat.le_of_eq hrun
    · exact fun r payload m hd hr => due_feedbackRun (hdue r payload hd) hr
  captured t := by
    rw [captured_append_iff hnext, hrun, h.captured t]
    simp
  verdict := by rwa [hrun]
  stats := by rwa [hrun]

theorem steady (h : Follows past e text) (hnext : e.next? event = some e') (hs : Steady e e')
    (hawaits : Awaits (Due e.run text) e')
    (hdue : ∀ r payload, Delivers e r payload event → Due e.run text r payload)
    (hnone : ∀ r payload, Delivers e r payload event → r.feedbackRun? ≠ some e.run) :
    Follows (past ++ [(e, event)]) e' text := by
  have hold {p : Reply → Prop} (hp : ∀ r, p r → r.feedbackRun? = some e.run) {theme : Theme}
      (hc : HasCome (past ++ [(e, event)]) e.run p theme) : HasCome past e.run p theme := by
    -- the event adds no reply to the newest run, and begins none
    obtain hc | ⟨r, payload, hd, hpr⟩ | ⟨hlt, -⟩ := hc.of_append hnext
    · exact hc
    · exact absurd (hp r hpr) (hnone r payload hd)
    · exact absurd hlt (Nat.lt_irrefl _)
  refine h.step hnext hs.run hawaits hdue (fun hopen theme hc => ?_) fun hopen theme hc => ?_
  · have hc := hold (fun r hr => by obtain ⟨tab, content, rfl⟩ := hr; rfl) hc
    obtain ⟨theme', hcome, hshows⟩ := h.verdict (hs.isOpen hopen) theme hc
    exact ⟨theme', hcome.append _, hshows.steady hs⟩
  · have hc := hold (fun r hr => by cases hr; rfl) hc
    exact hs.stats.trans (h.stats (hs.isOpen hopen) theme hc)

theorem shown_verdict (h : Follows past e text) (hnext : e.next? event = some e')
    {tab content : Text} {payload : Json}
    (hd : Delivers e (.verdict e.run tab content) payload event)
    (hdue : Due e.run text (.verdict e.run tab content) payload) :
    Follows (past ++ [(e, event)]) e' text := by
  obtain ⟨hrun, hopen, hawaits⟩ := hd.follows_core rfl hnext
  have hpayload : payload = .obj (Report.ofText text).toMembers := by
    obtain ⟨-, hpayload, hcontent⟩ := hdue
    rw [hpayload, hcontent rfl]
  have hnew (ho : e'.isOpen = true) := (hpayload ▸ hd).verdict_shown hnext (hopen ▸ ho)
  refine h.step hnext hrun (hawaits _ h.awaits) (fun r' payload' hd' => ?_) (fun ho theme _ => ?_)
    fun ho theme hc => ?_
  · obtain ⟨rfl, rfl⟩ := hd.unique hd'
    exact hdue
  · exact ⟨_, .delivered (by simp) hd ⟨tab, content, rfl⟩, (hnew ho).toShowsVerdict⟩
  · obtain hc | ⟨r', payload', hd', rfl⟩ | ⟨hlt, -⟩ := hc.of_append hnext
    · exact (hnew ho).stats.trans (h.stats (hopen ▸ ho) theme hc)
    · cases (hd.unique hd').1
    · exact absurd hlt (Nat.lt_irrefl _)

theorem shown_stats (h : Follows past e text) (hnext : e.next? event = some e') {payload : Json}
    (hd : Delivers e (.stats e.run) payload event) (hdue : Due e.run text (.stats e.run) payload) :
    Follows (past ++ [(e, event)]) e' text := by
  obtain ⟨hrun, hopen, hawaits⟩ := hd.follows_core rfl hnext
  have hpayload : payload = .obj (Stats.ofText text).toMembers := hdue.2 rfl
  have hnew (ho : e'.isOpen = true) := (hpayload ▸ hd).stats_shown hnext (hopen ▸ ho)
  refine h.step hnext hrun (hawaits _ h.awaits) (fun r' payload' hd' => ?_)
    (fun ho theme hc => ?_) fun ho theme _ => ?_
  · obtain ⟨rfl, rfl⟩ := hd.unique hd'
    exact hdue
  · obtain hc | ⟨r', payload', hd', tab, content, rfl⟩ | ⟨hlt, -⟩ := hc.of_append hnext
    · obtain ⟨theme', hcome, hshows⟩ := h.verdict (hopen ▸ ho) theme hc
      refine ⟨theme', hcome.append _, ⟨?_, ?_, ?_⟩⟩
      all_goals rw [hnew ho]
      exacts [hshows.validity, hshows.location, hshows.message]
    · cases (hd.unique hd').1
    · exact absurd hlt (Nat.lt_irrefl _)
  · rw [hnew ho]

theorem not_hasCome (h : Follows past e text) {p : Reply → Prop}
    (hp : ∀ r, p r → r.feedbackRun? = some (e.run + 1)) {theme : Theme} :
    ¬ HasCome past (e.run + 1) p theme := by
  intro hc
  cases hc with
  | delivered hmem hd hpr =>
    exact absurd ((h.upTo _ hmem).delivered _ _ _ hd (hp _ hpr)) (Nat.not_succ_le_self _)
  | atOnce hmem hs _ hrun _ =>
    exact absurd (hrun ▸ (h.upTo _ hmem).begun _ hs) (Nat.not_succ_le_self _)

theorem not_captured (h : Follows past e text) (t : Text) : ¬ Captured past (e.run + 1) t := by
  rintro ⟨s, before, s', hmem, hs, -, hrun, -⟩
  exact absurd (hrun ▸ (h.upTo _ hmem).begun s' hs) (Nat.not_succ_le_self _)

theorem begin (h : Follows past e text) (hnext : e.next? event = some e') {s : Editor}
    {ns : List Notice} (hs : Both Steady (Bears (Due e.run text)) e s) (htexts : SameContents e s)
    (he' : e' = { after feedback s with notices := ns })
    (hother : ∀ r payload, Delivers e r payload event → r.feedbackRun? = none) :
    Follows (past ++ [(e, event)]) e' (e.tabText e'.session.activeTab.id) := by
  obtain ⟨hsteady, hbears⟩ := hs
  have hdesk := sameDesk_feedback s
  have hsession : e'.session = s.session := by rw [he', hdesk.session]
  have hsetup : e'.setup = s.setup := by rw [he', hdesk.setup]
  have hopen : e'.isOpen = s.isOpen := by rw [he', hdesk.isOpen]
  have hrun : e'.run = e.run + 1 := by rw [he', hdesk.run, ← hsteady.run]
  have hawaits : Awaits (Due s.run text) s := hsteady.run ▸ hbears h.awaits
  rw [hsession, ← htexts.tab]
  -- only an inline engine has anything come for the new run
  have hengine {p : Reply → Prop} (hp : ∀ r, p r → r.feedbackRun? = some (e.run + 1))
      {theme : Theme} (hc : HasCome (past ++ [(e, event)]) (e.run + 1) p theme) :
      e'.setup.engine = .inline := by
    obtain hc | ⟨r, payload, hd, hpr⟩ | ⟨-, -, hengine⟩ := hc.of_append hnext
    · exact absurd hc (h.not_hasCome hp)
    · cases (hother r payload hd).symm.trans (hp r hpr)
    · exact hengine
  have hshown (hin : e'.setup.engine = .inline) (ho : e'.isOpen = true) :=
    shown_feedback (hsetup ▸ hin) (hawaits.idle (by rw [← hsetup, hin]; decide)) (hopen ▸ ho)
  constructor
  case awaits =>
    rw [hrun, ← hsteady.run, he']
    exact (awaits_feedback hawaits).of_core rfl
  case upTo =>
    rw [hrun]
    refine List.forall_mem_append.mpr ⟨fun p hp => (h.upTo p hp).next,
      List.forall_mem_singleton.mpr ⟨?_, ?_⟩⟩
    · intro s' hs'
      cases hs'.symm.trans hnext
      exact Nat.le_of_eq hrun
    · intro r payload m hd hr
      cases (hother r payload hd).symm.trans hr
  case captured =>
    intro t
    rw [hrun, captured_append_iff hnext, hrun, hsession, htexts.tab]
    simp [h.not_captured t, eq_comm]
  case verdict =>
    intro ho theme hc
    rw [hrun] at hc ⊢
    have hin := hengine (fun r hr => by obtain ⟨tab, content, rfl⟩ := hr; rfl) hc
    have hshows := hshown hin ho
    refine ⟨_, .atOnce (by simp) hnext (Nat.lt_succ_self _) hrun hin, ?_⟩
    rw [he', hdesk.settings]
    exact ⟨hshows.validity, hshows.location, hshows.message⟩
  case stats =>
    intro ho theme hc
    rw [hrun] at hc
    have hin := hengine (fun r hr => by cases hr; rfl) hc
    rw [he']
    exact (hshown hin ho).stats

/-- A reply to live feedback is shown if it is one to the newest run, and dropped otherwise. -/
theorem receive (h : Follows past e text) (hnext : e.next? event = some e')
    {r : Reply} {payload : Json} {m : Nat} (hd : Delivers e r payload event)
    (hr : r.feedbackRun? = some m)
    (hdue : ∀ r payload, Delivers e r payload event → Due e.run text r payload) :
    Follows (past ++ [(e, event)]) e' text := by
  by_cases hm : m = e.run
  · cases hm
    cases r with
    | verdict run tab content =>
      cases hr
      exact h.shown_verdict hnext hd (hdue _ _ hd)
    | stats run =>
      cases hr
      exact h.shown_stats hnext hd (hdue _ _ hd)
    | _ => cases hr
  · obtain ⟨c, timers, now, hwaiting, htimers, rfl⟩ := hd.stale hr hm hnext
    refine h.steady hnext ⟨rfl, rfl, id, rfl, rfl, rfl, rfl⟩
      (h.awaits.less hwaiting htimers rfl) hdue fun r' payload' hd' => ?_
    rw [(hd.unique hd').1, hr]
    exact fun heq => hm (Option.some.inj heq)

end Follows

/-- Whatever an event leads to, what is shown goes on to follow the newest run. -/
theorem Follows.next {text : Text} (h : Follows past e text) (hwait : event.isWait = false)
    (hhonest : ∀ response, event = .act (.respond response) → e.Honest response)
    (hnext : e.next? event = some e') : ∃ text', Follows (past ++ [(e, event)]) e' text' := by
  have hdue (r : Reply) (payload : Json) (hd : Delivers e r payload event) :
      Due e.run text r payload := hd.awaited h.awaits hhonest
  -- a reply to live feedback is looked at for itself, all else is admitted by the relations
  by_cases hshown : ∃ r payload m, Delivers e r payload event ∧ r.feedbackRun? = some m
  · obtain ⟨r, payload, m, hd, hr⟩ := hshown
    exact ⟨text, h.receive hnext hd hr hdue⟩
  · have hother (r : Reply) (payload : Json) (hd : Delivers e r payload event) :
        r.feedbackRun? = none :=
      Option.eq_none_iff_forall_ne_some.mpr fun m hr => hshown ⟨r, payload, m, hd, hr⟩
    have hadmits := admits_steady.both (admits_bears (P := Due e.run text))
    have hstatus {s s' : Editor} (hs : SameStatus s s') :
        Both Steady (Bears (Due e.run text)) s s' :=
      ⟨steady_of_status hs, fun ha => ha.of_core hs.1⟩
    have hrest {s : Editor} (hs : Both Steady (Bears (Due e.run text)) e s)
        (hs' : Both Steady (Bears (Due e.run text)) s e') :
        Follows (past ++ [(e, event)]) e' text := by
      have hboth := trans_of (Both Steady (Bears (Due e.run text))) hs hs'
      refine h.steady hnext hboth.1 (hboth.2 h.awaits) hdue fun r payload hd => ?_
      rw [hother r payload hd]
      exact Option.some_ne_none _ ∘ Eq.symm
    have harrives := hadmits.onward ⟨trivial, due_other rfl⟩ hwait hnext
      (fun a r _ hasks => ⟨trivial, due_other (by cases hasks <;> rfl)⟩)
      fun r payload s hd hs => hadmits.otherReply hstatus ⟨trivial, due_other rfl⟩
        (hother r payload hd) payload s
    cases harrives with
    | inl hs => exact ⟨text, hrest (refl_of _ e) hs⟩
    | inr hbegins =>
      obtain ⟨k, s, ns, hk, hs, htexts, heq⟩ := hbegins
      cases hk with
      | feedback => exact ⟨_, h.begin hnext hs htexts heq hother⟩
      | comparison w =>
        have hcompared := hadmits.compared hstatus w
          (fun run part => ⟨trivial, due_other rfl⟩) s
        have hnoticed : SameStatus (after (EditorM.comparison w) s) e' := by
          rw [heq]
          exact ⟨rfl, rfl⟩
        exact ⟨text, hrest hs (trans_of _ hcompared (hstatus hnoticed))⟩

theorem follows_start {setup : Setup} {disk : Disk} {refused : List Command} {path : Text}
    {e₀ : Editor} (hstart : start setup disk refused path = .ok e₀) : Follows [] e₀ [] := by
  obtain ⟨taken, settings, session, hsteady, hbears⟩ :=
    (admits_steady.both (admits_bears (P := Due 0 []))).start hstart
  have hrun : e₀.run = 0 := hsteady.run
  have hnone (run : Nat) (text : Text) : ¬ Captured [] run text := by
    rintro ⟨s, event, s', hmem, -⟩
    cases hmem
  have hno {run : Nat} {p : Reply → Prop} {theme : Theme} : ¬ HasCome [] run p theme := by
    intro hc
    cases hc with
    | delivered hmem => cases hmem
    | atOnce hmem => cases hmem
  constructor
  case awaits =>
    rw [hrun]
    exact hbears ⟨by simp [bare, Client.empty], by simp [bare], fun _ => rfl, by simp [bare]⟩
  case upTo => simp
  case captured => simp [hnone, hrun]
  case verdict => exact fun _ _ hc => absurd hc hno
  case stats => exact fun _ _ hc => absurd hc hno

theorem Course.follows {setup : Setup} {disk : Disk} {refused : List Command} {path : Text}
    {e₀ : Editor} (h : Course e₀ past e)
    (hstart : Editor.start setup disk refused path = .ok e₀) :
    ∃ text, Follows past e text := by
  induction h with
  | start => exact ⟨[], follows_start hstart⟩
  | step _ hwait hhonest hnext ih =>
    obtain ⟨text, hfollows⟩ := ih
    exact hfollows.next hwait hhonest hnext
  | clock now _ ih =>
    obtain ⟨text, h⟩ := ih
    refine ⟨text, h.awaits.of_core rfl, h.upTo, h.captured, fun ho theme hc => ?_, h.stats⟩
    obtain ⟨theme', hcome, hshows⟩ := h.verdict ho theme hc
    exact ⟨theme', hcome, hshows.validity, hshows.location, hshows.message⟩

/-- Whatever happens while the engine answers in whatever order, a reply to a run of live feedback
that is not the newest is dropped, with no other effect.  The newest run has captured one text, and
whichever of its replies have come, the status area shows what is due to that text. -/
theorem live_feedback_newest {setup : Setup} {disk : Disk} {refused : List Command} {path : Text}
    {e₀ e : Editor} {past : List (Editor × Event)} (hstart : start setup disk refused path = .ok e₀)
    (hcourse : Course e₀ past e) :
    (∀ event e' r payload run, e.next? event = some e' → Delivers e r payload event →
      r.feedbackRun? = some run → run ≠ e.run →
      ∃ client timers now, e' = { e with client := client, timers := timers, now := now }) ∧
    (e.run ≠ 0 → ∃ text, Captured past e.run text) ∧
    ∀ text, Captured past e.run text → e.isOpen = true →
      (∀ theme, HasCome past e.run (VerdictOf e.run) theme →
        ∃ theme, HasCome past e.run (VerdictOf e.run) theme ∧ e.ShowsVerdict text theme) ∧
      ∀ theme, HasCome past e.run (StatsOf e.run) theme →
        e.status.stats = (Stats.ofText text).text := by
  obtain ⟨newest, hfollows⟩ := hcourse.follows hstart
  refine ⟨fun event e' r payload run hnext hd hr hne => ?_, fun hrun => ?_,
    fun text hcaptured hopen => ?_⟩
  · obtain ⟨client, timers, now, -, -, heq⟩ := hd.stale hr hne hnext
    exact ⟨client, timers, now, heq⟩
  · exact ⟨newest, (hfollows.captured newest).mpr ⟨hrun, rfl⟩⟩
  · obtain ⟨-, rfl⟩ := (hfollows.captured text).mp hcaptured
    exact ⟨hfollows.verdict hopen, hfollows.stats hopen⟩

/-- The text of a tab is edited and the theme is changed while the worker's answers about the text
as it was are still to be handed on: they are dropped, and then the newer text is shown. -/
theorem live_feedback_newest_toggled :
    ∃ setup e₀ past e s payload text, start setup .empty [] [] = .ok e₀ ∧ Course e₀ past e ∧
      e.run = 2 ∧ (s, .turn 0) ∈ past ∧ s.run = 2 ∧
      Delivers s (.verdict 1 "t0" []) payload (.turn 0) ∧
      (∃ client timers now,
        s.next? (.turn 0) = some { s with client := client, timers := timers, now := now }) ∧
      Captured past e.run text ∧ (∃ theme, e.ShowsVerdict text theme) ∧
      e.status.stats = (Stats.ofText text).text := by
  have hscene : ((fresh? .background).bind fun e₀ =>
      (e₀.follow [.turn 0, .act (.edit 0 (.replace " ")), .turn 0, .turn 0,
        .act (.press .theme)]).bind fun s₁ =>
      (s₁.turn? 0).bind fun s₂ => (s₂.turn? 0).bind fun s₃ => (s₃.turn? 0).bind fun s₄ =>
      (s₄.turn? 0).map fun e =>
        ([s₁.nextReply? 0, s₃.nextReply? 0, s₄.nextReply? 0], [s₁.run, e.run], e.isOpen)) =
      some ([some (Reply.verdict 1 "t0" []), some (Reply.verdict 2 "t0" " "),
        some (Reply.stats 2)], [2, 2], true) := by
    decide +kernel
  obtain ⟨e₀, hstart, hscene⟩ := Option.bind_eq_some_iff.mp hscene
  obtain ⟨s₁, hfollow, hscene⟩ := Option.bind_eq_some_iff.mp hscene
  obtain ⟨s₂, h₁, hscene⟩ := Option.bind_eq_some_iff.mp hscene
  obtain ⟨s₃, h₂, hscene⟩ := Option.bind_eq_some_iff.mp hscene
  obtain ⟨s₄, h₃, hscene⟩ := Option.bind_eq_some_iff.mp hscene
  obtain ⟨e, h₄, hscene⟩ := Option.map_eq_some_iff.mp hscene
  simp only [Prod.mk.injEq, List.cons.injEq] at hscene
  obtain ⟨⟨hnext₁, hnext₃, hnext₄, -⟩, ⟨hrun₁, hrun, -⟩, hopen⟩ := hscene
  have hstart := start_of_fresh? hstart
  obtain ⟨payload₁, hd₁⟩ := exists_delivers hnext₁
  obtain ⟨payload₃, hd₃⟩ := exists_delivers hnext₃
  obtain ⟨payload₄, hd₄⟩ := exists_delivers hnext₄
  obtain ⟨past, hcourse₁⟩ := course_of_follow hfollow rfl (by simp)
  have hcourse := (((hcourse₁.turn h₁).turn h₂).turn h₃).turn h₄
  obtain ⟨client, timers, now, hdropped⟩ := (live_feedback_newest hstart hcourse₁).1 (.turn 0) _ _ _ 1
    h₁ hd₁ rfl (by rw [hrun₁]; decide)
  obtain ⟨-, hcaptured, hshown⟩ := live_feedback_newest hstart hcourse
  obtain ⟨text, htext⟩ := hcaptured (by rw [hrun]; decide)
  obtain ⟨hvalid, hmeasured⟩ := hshown text htext hopen
  obtain ⟨theme, -, htheme⟩ := hvalid _ (.delivered (by simp) hd₃ (hrun ▸ ⟨_, _, rfl⟩))
  exact ⟨_, e₀, _, e, s₁, payload₁, text, hstart, hcourse, hrun, by simp, hrun₁, hd₁,
    ⟨client, timers, now, hdropped ▸ h₁⟩, htext, ⟨theme, htheme⟩,
    hmeasured _ (.delivered (by simp) hd₄ (hrun ▸ rfl))⟩

end Editor

end JsonDesk
