import JsonDesk.Editor.Start
import JsonDesk.Proofs.Boxes
import JsonDesk.Proofs.QuietSteps
import JsonDesk.Proofs.Routing

/-!
What an event can lead to.  A relation between editors that allows for some changes of timers,
requests and windows, and for what is done with tabs, holds along whatever happens, up to three kinds
of steps that have to be looked at for themselves: a reply that is handed on, a new run of live
feedback, and a new comparison.
-/

set_option autoImplicit false

namespace JsonDesk

open EditorM

def Reply.isReshape : Reply → Bool
  | .reshape .. | .reshapeSide .. => true
  | _ => false

def Reply.feedbackRun? : Reply → Option Nat
  | .verdict run .. | .stats run => some run
  | _ => none

theorem Client.onResult_of_settle {κ : Type} {fallback : Json → Json} {w : Waiting κ}
    {response payload : Json} {k : κ}
    (h : settle fallback w response = some (.result k payload)) : w.onResult = k := by
  unfold settle at h
  dsimp only at h
  generalize (if isError response then fallback w.message else response) = last at h
  split at h
  · cases hon : w.onError <;> simp [hon] at h
  · cases h
    rfl

theorem Client.receive_ok {κ : Type} {fallback : Json → Json} {c c' : Client κ} {response : Json}
    {d : Option (Delivery κ)} (h : c.receive fallback response = .ok (c', d)) :
    (∀ w ∈ c'.waiting, w ∈ c.waiting) ∧
      ∀ k payload, d = some (.result k payload) → ∃ w ∈ c.waiting, w.onResult = k := by
  have hdeliver : c.deliver fallback response = (c', .ok d) := by rw [deliver, h]
  cases deliver_cases fallback c response with
  | inl hfound =>
    obtain ⟨w, -, hw, heq⟩ := hfound
    rw [hdeliver] at heq
    cases heq
    exact ⟨fun v hv => (List.mem_filter.mp hv).1,
      fun k payload hk => ⟨w, (find?_some hw).1, onResult_of_settle hk⟩⟩
  | inr hnone =>
    obtain ⟨-, hsame, hno⟩ := hnone
    rw [hdeliver] at hsame hno
    cases hsame
    exact ⟨fun w hw => hw, fun k payload hk => absurd (congrArg Except.ok hk) (hno _)⟩

namespace Editor

/-- What a press of a button asks for: the active text, or that of a side, in another form. -/
inductive Asks (e : Editor) : Action → Reply → Prop
  | reshape (op : Operation) : Asks e (.press (.reshape op))
      (.reshape e.session.activeTab.id (e.tabText e.session.activeTab.id))
  | side {w : Nat} {s : Side} {b : TextBox} : e.comparing = some w →
    e.box? (.side w s) = some b →
    Asks e (.press (.formatSide s)) (.reshapeSide w s b.content)

/-- What happens to an editor: the user or someone else acts, or its loop takes a turn. -/
inductive Event
  | act (a : Action)
  | turn (stop : Int)

def next? (e : Editor) : Event → Option Editor
  | .act a => e.step? a
  | .turn stop => e.turn? stop

/-- Whether the event is a time in which the loop may take many turns. -/
def Event.isWait : Event → Bool
  | .act (.wait _) => true
  | _ => false

theorem mem_of_dueTimer? {e : Editor} {stop : Int} {t : Timer Job}
    (h : e.dueTimer? stop = some t) : t ∈ e.timers :=
  Timer.earliest?_mem (Option.filter_eq_some_iff.mp h).1

/-- A step with a property that is taken up to an event was taken before it, or else it is the one
that the event leads to. -/
theorem exists_step_concat_iff {past : List (Editor × Event)} {e e' : Editor} {event : Event}
    (hnext : e.next? event = some e') {Q : Editor → Editor → Prop} :
    (∃ s before s', (s, before) ∈ past ++ [(e, event)] ∧ s.next? before = some s' ∧ Q s s') ↔
      (∃ s before s', (s, before) ∈ past ∧ s.next? before = some s' ∧ Q s s') ∨ Q e e' := by
  constructor
  · rintro ⟨s, before, s', hmem, hs, hq⟩
    cases List.mem_append.mp hmem with
    | inl hmem => exact .inl ⟨s, before, s', hmem, hs, hq⟩
    | inr hmem =>
      cases List.mem_singleton.mp hmem
      cases hs.symm.trans hnext
      exact .inr hq
  · rintro (⟨s, before, s', hmem, hs⟩ | hlast)
    · exact ⟨s, before, s', List.mem_append_left _ hmem, hs⟩
    · exact ⟨e, event, e', by simp, hnext, hlast⟩

/-- The event hands a reply with its result on, in answer to a response or by a timer. -/
inductive Delivers (e : Editor) (r : Reply) (payload : Json) : Event → Prop
  | response {response : Json} {c : Client Reply} :
    e.client.receive (fun message => (respond message).toJson) response =
      .ok (c, some (.result r payload)) → Delivers e r payload (.act (.respond response))
  | timer {stop : Int} {t : Timer Job} : e.signals = [] → e.dueTimer? stop = some t →
    t.job = .reply r payload → Delivers e r payload (.turn stop)

/-- The texts of all tabs and of all compare windows are the same. -/
structure SameContents (e e' : Editor) : Prop where
  tab : ∀ tab, e'.tabText tab = e.tabText tab
  side : ∀ w s, e'.sideText? w s = e.sideText? w s

instance : IsPreorder Editor SameContents where
  refl _ := ⟨fun _ => rfl, fun _ _ => rfl⟩
  trans _ _ _ h h' :=
    ⟨fun tab => (h'.tab tab).trans (h.tab tab), fun w s => (h'.side w s).trans (h.side w s)⟩

theorem SameContents.of_eq {e e' : Editor} (hpages : e'.pages = e.pages)
    (hwindows : e'.windows = e.windows) : SameContents e e' :=
  ⟨fun _ => by simp only [tabText, page?, hpages], fun _ _ => by simp only [sideText?, hwindows]⟩

/-- A compare window that is there stays there. -/
def Present (w : Nat) (e e' : Editor) : Prop := e.hasWindow w = true → e'.hasWindow w = true

instance (w : Nat) : IsPreorder Editor (Present w) where
  refl _ h := h
  trans _ _ _ h h' hw := h' (h hw)

/-- The timers that are started for debouncers: that of a compare window belongs to it, and it is
there. -/
inductive Starts (e : Editor) : Option Nat → Job → Prop
  | feedback : Starts e none .feedback
  | comparison {w : Nat} : e.hasWindow w = true → Starts e (some w) (.comparison w)

theorem Starts.ne_reply {e : Editor} {owner : Option Nat} {job : Job} (h : Starts e owner job)
    (r : Reply) (payload : Json) : job ≠ .reply r payload := by
  cases h with
  | feedback => nofun
  | comparison => nofun

/-- The relation allows for timers, requests and windows; requests are made for the given replies
only.  The result of a request is dealt with at once by an inline engine only. -/
structure Allows (R : Editor → Editor → Prop) (Q : Reply → Prop) : Prop where
  overlooks : Overlooks R
  startTimer : ∀ delay {owner : Option Nat} {job : Job} {e : Editor}, Starts e owner job →
    R e (after (startTimer owner delay job) e)
  dropTimers : ∀ (e : Editor) (p : Timer Job → Bool), R e { e with timers := e.timers.filter p }
  dropRequests : ∀ (e : Editor) {c : Client Reply}, (∀ w ∈ c.waiting, w ∈ e.client.waiting) →
    R e { e with client := c }
  ask : ∀ op payload {r : Reply} {handle : Json → EditorM Unit} {e : Editor}, Q r →
    (e.setup.engine = .inline → ∀ payload, Leads R (handle payload)) →
    R e (after (ask op payload r handle) e)
  openWindow : ∀ (e : Editor) (theme : Theme),
    R e { e with windows := e.windows ++ [.blank theme] }
  useWindow : ∀ (e : Editor) {w : Nat}, e.hasWindow w = true → R e { e with comparing := some w }
  leaveWindow : ∀ e : Editor, R e { e with comparing := none }
  /-- A window may go that is not in use. -/
  loseWindow : ∀ (e : Editor) {w : Nat}, e.comparing ≠ some w →
    R e (e.modifyWindow w fun window => { window with alive := false })
  close : ∀ e : Editor, R e { e with
    isOpen := false, timers := [], windows := e.windows.map fun w => { w with alive := false } }

/-- What is done with tabs leads along the relation.  The signal that another page is shown may only
be dropped if that comes to nothing, or else with the tab of the page being made the active one. -/
structure TabSteps (R : Editor → Editor → Prop) : Prop where
  dropSignal : ∀ {e : Editor} {s : Signal} {rest : List Signal}, e.signals = s :: rest →
    (s = .pageShown → e.isOpen = true → e.shownPage? = none) → R e { e with signals := rest }
  activate : ∀ {e : Editor} {rest : List Signal} {p : Page}, e.signals = .pageShown :: rest →
    e.shownPage? = some p → R e { e with signals := rest, session := e.session.activate p.tab }
  showPage : ∀ {e : Editor} {p : Page}, p ∈ e.pages → R e (after (showPage p.number) e)
  newTab : ∀ name content, Leads R (newTab name content)
  renameTabAt : ∀ x, Leads R (renameTabAt x)
  closeTab : Leads R closeTab

/-- The relation allows for everything but replies, runs of feedback and comparisons. -/
structure Admits (R : Editor → Editor → Prop) (Q : Reply → Prop) : Prop extends Allows R Q where
  calm : ∀ {e e' : Editor}, Calm e e' → R e e'
  warn : ∀ payload, Leads R (warnIfInvalid payload)
  loseAny : ∀ (e : Editor) (w : Nat),
    R e (e.modifyWindow w fun window => { window with alive := false })
  overlooks := overlooks_calm.mono fun _ _ => calm
  loseWindow e w _ := loseAny e w

theorem Allows.both {R R' : Editor → Editor → Prop} {Q Q' : Reply → Prop} (h : Allows R Q)
    (h' : Allows R' Q') : Allows (Both R R') fun r => Q r ∧ Q' r where
  overlooks := h.overlooks.both h'.overlooks
  startTimer delay _ _ _ hs := ⟨h.startTimer delay hs, h'.startTimer delay hs⟩
  dropTimers e p := ⟨h.dropTimers e p, h'.dropTimers e p⟩
  dropRequests e _ hc := ⟨h.dropRequests e hc, h'.dropRequests e hc⟩
  ask op payload _ _ _ hr hh :=
    ⟨h.ask op payload hr.1 fun hengine payload s => (hh hengine payload s).1,
      h'.ask op payload hr.2 fun hengine payload s => (hh hengine payload s).2⟩
  openWindow e theme := ⟨h.openWindow e theme, h'.openWindow e theme⟩
  useWindow e _ hw := ⟨h.useWindow e hw, h'.useWindow e hw⟩
  leaveWindow e := ⟨h.leaveWindow e, h'.leaveWindow e⟩
  loseWindow e _ hw := ⟨h.loseWindow e hw, h'.loseWindow e hw⟩
  close e := ⟨h.close e, h'.close e⟩

theorem Admits.both {R R' : Editor → Editor → Prop} {Q Q' : Reply → Prop} (h : Admits R Q)
    (h' : Admits R' Q') : Admits (Both R R') fun r => Q r ∧ Q' r where
  toAllows := h.toAllows.both h'.toAllows
  calm hc := ⟨h.calm hc, h'.calm hc⟩
  warn payload e := ⟨h.warn payload e, h'.warn payload e⟩
  loseAny e w := ⟨h.loseAny e w, h'.loseAny e w⟩

end Editor

open Editor

namespace EditorM

variable {α β : Type}

/-- The steps that begin something new to be shown. -/
inductive Begins : EditorM Unit → Prop
  | feedback : Begins feedback
  | comparison (w : Nat) : Begins (comparison w)

/-- The step leads along the relation to its end, or else to the beginning of something new, which
is the last that it does, and no text is changed before. -/
def Comes (R : Editor → Editor → Prop) (m : EditorM α) (e : Editor) : Prop :=
  R e (after m e) ∨ ∃ k s, Begins k ∧ R e s ∧ SameContents e s ∧ after m e = after k s

abbrev Reaches (R : Editor → Editor → Prop) (m : EditorM α) : Prop := ∀ e, Comes R m e

namespace Reaches

variable {R : Editor → Editor → Prop}

theorem of_leads {m : EditorM α} (h : Leads R m) : Reaches R m := fun e => .inl (h e)

theorem begins [IsPreorder Editor R] {k : EditorM Unit} (hk : Begins k) : Reaches R k :=
  fun e => .inr ⟨k, e, hk, refl_of R e, refl_of SameContents e, rfl⟩

theorem bind [IsPreorder Editor R] {m : EditorM α} {f : α → EditorM β} (hm : Leads R m)
    (hs : Leads SameContents m) (hf : ∀ a, Reaches R (f a)) : Reaches R (m >>= f) := by
  intro e
  unfold Comes
  rw [after_bind]
  cases (m.run.run e).1 with
  | error x => exact .inl (hm e)
  | ok a =>
    cases hf a (after m e) with
    | inl h => exact .inl (trans_of R (hm e) h)
    | inr h =>
      obtain ⟨k, s, hk, hR, htexts, heq⟩ := h
      exact .inr ⟨k, s, hk, trans_of R (hm e) hR, trans_of SameContents (hs e) htexts, heq⟩

end Reaches

theorem sameContents_ignoresRequests : IgnoresRequests SameContents :=
  fun _ _ _ _ _ _ _ => .of_eq rfl rfl

theorem overlooks_present {w : Nat} : Overlooks (Present w) where
  aside h hw := by
    rw [h]
    exact hw
  box e n b hw := by
    cases n with
    | page k => exact hw
    | side v s =>
      have hkept : WindowsKept e.windows (e.setBox (.side v s) b).windows :=
        .modify _ _ fun _ => by cases s <;> exact ⟨rfl, rfl⟩
      exact (hkept.alive w).trans hw
  edited _ _ hw := hw
  content _ _ _ hw := hw
  repaint _ _ hw := hw
  windows _ _ h hw := (h.alive w).trans hw

theorem present_comparisonHost (w : Nat) : HostLeads (Present w) (comparisonHost w) := by
  have hignores : IgnoresRequests (Present w) := fun _ _ _ _ _ _ _ hw => hw
  exact
    { start _ _ := hignores.startTimer _ _ _
      stop _ := .bind (.attempt _) fun _ => .modify fun e => hignores.dropTimers e _
      pending := .get fun _ => .pure _
      setPending _ := .modify fun e =>
        overlooks_present.modifyWindow e w fun _ => ⟨rfl, rfl⟩ }

theorem present_scheduleComparison (w : Nat) : Leads (Present w) (scheduleComparison w) :=
  .get fun _ => (present_comparisonHost w).schedule _

theorem hasWindow_of_box? {e : Editor} {w : Nat} {s : Side} {b : TextBox}
    (h : e.box? (.side w s) = some b) : e.hasWindow w = true := by
  unfold box? at h
  split at h
  · simp only [Option.map_eq_some_iff, Option.filter_eq_some_iff] at h
    obtain ⟨window, ⟨hwindow, halive⟩, -⟩ := h
    rw [hasWindow, hwindow]
    exact halive
  · cases h

theorem sameContents_modifyWindow (e : Editor) (w : Nat) {f : CompareWindow → CompareWindow}
    (hf : ∀ window s, ((f window).view s).box = (window.view s).box) :
    SameContents e (e.modifyWindow w f) := by
  refine ⟨fun _ => rfl, fun v s => ?_⟩
  simp only [sideText?, modifyWindow, List.getElem?_modify]
  cases e.windows[v]? with
  | none => rfl
  | some window =>
    by_cases h : w = v
    · simp [h, hf]
    · simp [h]

theorem sameContents_feedbackHost : HostLeads SameContents feedbackHost where
  start _ _ := sameContents_ignoresRequests.startTimer _ _ _
  stop _ := .bind (.attempt _) fun _ => .modify fun _ => .of_eq rfl rfl
  pending := .get fun _ => .pure _
  setPending _ := .modify fun _ => .of_eq rfl rfl

theorem sameContents_applyTheme : Leads SameContents applyTheme := by
  refine .bind (.modify fun e => ⟨fun tab => ?_, fun _ _ => rfl⟩) fun _ => .get fun e => ?_
  · simp only [tabText, page?, List.find?_map, Function.comp_def]
    cases e.pages.find? fun p => p.tab = tab <;> rfl
  · split
    · exact .bind (.useBox _) fun _ => .modify fun e =>
        sameContents_modifyWindow e _ fun _ s => by cases s <;> rfl
    · exact .pure _

theorem sameContents_saveSettings : Leads SameContents saveSettings := by
  refine .get fun _ => .bind (.get fun _ => ?_) fun _ => .pure _
  exact .bind (.modify fun _ => .of_eq rfl rfl) fun _ => .ofExcept _

theorem call_eq_after (m : EditorM α) (e : Editor) :
    ∃ ns, (call m e).2 = { after m e with notices := ns } := by
  rw [call_snd]
  split
  · exact ⟨_, rfl⟩
  · exact ⟨_, rfl⟩

def handOn (handle : Reply → Json → EditorM Unit) : Option (Delivery Reply) → EditorM Unit
  | some (.result r payload) => handle r payload
  | _ => pure ()

theorem run_accept {handle : Reply → Json → EditorM Unit} {response : Json} {e : Editor}
    {c : Client Reply} {d : Option (Delivery Reply)}
    (h : e.client.receive (fun message => (respond message).toJson) response = .ok (c, d)) :
    (accept handle response).run.run e = (handOn handle d).run.run { e with client := c } := by
  have haccept : (accept handle response).run.run e = (MonadExcept.ofExcept
      (e.client.receive (fun message => (respond message).toJson) response) >>= fun p => do
        set { e with client := p.1 }
        handOn handle p.2 : EditorM Unit).run.run e := rfl
  rw [haccept, h]
  rfl

end EditorM

namespace Editor.Delivers

variable {e e' : Editor} {r r' : Reply} {payload payload' : Json} {event : Event}

theorem unique (h : Delivers e r payload event) (h' : Delivers e r' payload' event) :
    r' = r ∧ payload' = payload := by
  cases h with
  | response hreceive =>
    cases h' with
    | response hreceive' =>
      rw [hreceive] at hreceive'
      cases hreceive'
      exact ⟨rfl, rfl⟩
  | timer _ hdue hjob =>
    cases h' with
    | timer _ hdue' hjob' =>
      rw [hdue] at hdue'
      cases hdue'
      rw [hjob] at hjob'
      cases hjob'
      exact ⟨rfl, rfl⟩

theorem next?_eq (h : Delivers e r payload event) (hnext : e.next? event = some e') :
    ∃ c timers now, (∀ w ∈ c.waiting, w ∈ e.client.waiting) ∧ (∀ t ∈ timers, t ∈ e.timers) ∧
      e' = (EditorM.call (r.handle payload)
        { e with client := c, timers := timers, now := now }).2 := by
  cases h with
  | @response response c hreceive =>
    cases hnext
    refine ⟨c, e.timers, e.now, (Client.receive_ok hreceive).1, fun t ht => ht, ?_⟩
    rw [act, EditorM.call, run_accept hreceive]
    rfl
  | @timer stop t hsignals hdue hjob =>
    simp only [next?, turn?, hsignals, hdue, Option.map_some, Option.some.injEq] at hnext
    rw [hjob] at hnext
    refine ⟨e.client, e.timers.filter fun u => u.id != t.id, max e.now t.due, fun w hw => hw,
      fun u hu => (List.mem_filter.mp hu).1, ?_⟩
    rw [← hnext, ← hsignals]
    rfl

theorem dropped (h : Delivers e r payload event) (hnext : e.next? event = some e')
    (hnone : ∀ c timers now, (r.handle payload).run.run
      { e with client := c, timers := timers, now := now } =
        (.ok (), { e with client := c, timers := timers, now := now })) :
    ∃ c timers now, (∀ w ∈ c.waiting, w ∈ e.client.waiting) ∧ (∀ t ∈ timers, t ∈ e.timers) ∧
      e' = { e with client := c, timers := timers, now := now } := by
  obtain ⟨c, timers, now, hwaiting, htimers, hcall⟩ := h.next?_eq hnext
  refine ⟨c, timers, now, hwaiting, htimers, ?_⟩
  rw [hcall, EditorM.call, hnone]

end Editor.Delivers

/-- To wait is to take turns and to set the clock, so what these keep is kept by every event. -/
theorem Editor.keeps_next {I : Editor → Prop}
    (hturn : ∀ stop s s', s.turn? stop = some s' → I s → I s')
    (hclock : ∀ (s : Editor) now, I s → I { s with now := now }) {e e' : Editor} {event : Event}
    (hnext : e.next? event = some e') (hother : event.isWait = false → I e') (he : I e) : I e' := by
  have hturns (stop : Int) (left : Nat) : ∀ s, I s → I (turns stop left s) := by
    induction left with
    | zero => exact fun s hs => hs
    | succ left ih =>
      intro s hs
      rw [turns]
      cases h : s.turn? stop with
      | none => exact hs
      | some s' => exact ih s' (hturn stop s s' h hs)
  cases hwait : event.isWait with
  | false => exact hother hwait
  | true =>
    cases event with
    | turn => cases hwait
    | act a =>
      cases a with
      | wait t =>
        cases hnext
        exact hclock _ _ (hturns _ _ e he)
      | _ => cases hwait

def Editor.nextReply? (e : Editor) (stop : Int) : Option Reply :=
  match e.signals, ((e.dueTimer? stop).map (·.job) : Option Job) with
  | [], some (.reply r _) => some r
  | _, _ => none

theorem Editor.exists_delivers {e : Editor} {stop : Int} {r : Reply}
    (h : e.nextReply? stop = some r) : ∃ payload, Delivers e r payload (.turn stop) := by
  unfold nextReply? at h
  split at h
  · next payload hsignals hjob =>
    cases h
    obtain ⟨t, hdue, hjob⟩ := Option.map_eq_some_iff.mp hjob
    exact ⟨payload, .timer hsignals hdue hjob⟩
  · cases h

theorem Editor.delivers_of_waiting {e : Editor} {id type : Text} {r : Reply} {payload : Json}
    (hr : (e.client.find? id).map (·.onResult) = some r) (htype : type ≠ Response.errorType) :
    Delivers e r payload (.act (.respond (Response.toJson ⟨type, payload, .str id⟩))) := by
  obtain ⟨w, hw, rfl⟩ := Option.map_eq_some_iff.mp hr
  have hid : Json.field [("type", .str type), ("payload", payload), ("id", .str id)] "id" =
      .str id := rfl
  have hok : Client.isError (.obj [("type", .str type), ("payload", payload), ("id", .str id)]) =
      false := decide_eq_false htype
  refine .response (c := e.client.forget id) ?_
  simp only [Response.toJson, Client.receive, hid, hw, Client.settle, hok, Bool.false_eq_true,
    if_false]
  rfl

/-- Where an event leads: along the relation, or along it up to the beginning of something new. -/
def Editor.Arrives (R : Editor → Editor → Prop) (e e' : Editor) : Prop :=
  R e e' ∨ ∃ k s ns, Begins k ∧ R e s ∧ SameContents e s ∧ e' = { after k s with notices := ns }

theorem Editor.Arrives.of_trans {R : Editor → Editor → Prop} [IsPreorder Editor R]
    {e e₁ e' : Editor} (h : R e e₁) (hs : SameContents e e₁) (h' : Arrives R e₁ e') :
    Arrives R e e' := by
  cases h' with
  | inl h' => exact .inl (trans_of R h h')
  | inr h' =>
    obtain ⟨k, s, ns, hk, hR, htexts, heq⟩ := h'
    exact .inr ⟨k, s, ns, hk, trans_of R h hR, trans_of SameContents hs htexts, heq⟩

namespace Editor.Allows

variable {R : Editor → Editor → Prop} [IsPreorder Editor R] {Q : Reply → Prop} (h : Allows R Q)
  {α : Type}
include h

/-! ### Timers -/

theorem stopTimer (id : Nat) : Leads R (stopTimer id) :=
  .bind (.attempt _) fun _ => .modify fun e => h.dropTimers e _

theorem feedbackHost : HostLeads R feedbackHost where
  start delay _ _ := h.startTimer delay .feedback
  stop := h.stopTimer
  pending := .get fun _ => .pure _
  setPending _ := .modify fun _ => h.overlooks.aside rfl

theorem comparisonHost (w : Nat) : HostStops R (comparisonHost w) where
  stop := h.stopTimer
  pending := .get fun _ => .pure _
  setPending _ := .modify fun e => h.overlooks.modifyWindow e w fun _ => ⟨rfl, rfl⟩

theorem scheduleFeedback : Leads R scheduleFeedback := .get fun _ => h.feedbackHost.schedule _

theorem scheduleComparison {w : Nat} {e : Editor} (hw : e.hasWindow w = true) :
    R e (after (scheduleComparison w) e) := by
  unfold EditorM.scheduleComparison Debounce.schedule
  rw [after_get_bind]
  have hthere := (present_comparisonHost w).cancel e hw
  exact Leads.bindAt ((h.comparisonHost w).cancel e) fun _ =>
    Leads.bindAt (h.startTimer _ (.comparison hthere)) fun _ =>
      (h.comparisonHost w).setPending _ _

/-! ### Signals -/

theorem sideEdited (w : Nat) (s : Side) : Leads R (sideEdited w s) := by
  intro e
  unfold EditorM.sideEdited
  rw [after_useBox_bind]
  split
  · next b hb =>
    split
    · exact Leads.bindAt (h.overlooks.changeBox _ _ e) fun _ =>
        h.scheduleComparison (overlooks_present.changeBox _ _ e (hasWindow_of_box? hb))
    · exact refl_of R e
  · exact refl_of R e

theorem pageEdited (n : Nat) : Leads R (pageEdited n) := by
  refine .get fun e => ?_
  split
  · exact .pure _
  · refine .ite (fun _ => .bind (h.overlooks.changeBox _ _) fun _ => ?_) fun _ => .pure _
    refine .bind (.modify fun e => h.overlooks.content e _ _) fun _ => .get fun _ => ?_
    exact .ite (fun _ => h.scheduleFeedback) fun _ => .pure _

theorem edited (box : BoxName) : Leads R (Signal.edited box).handle := by
  cases box with
  | page n => exact h.pageEdited n
  | side w s => exact .get fun _ => .ite (fun _ => h.sideEdited w s) fun _ => .pure _

/-! ### Windows -/

theorem makeWindow (text : Text) : Leads R (makeWindow text) := by
  intro e
  let w := e.windows.length
  let made : Editor := { e with windows := e.windows ++ [.blank e.settings.theme] }
  have hmade : made.hasWindow w = true := by simp [hasWindow, made, w, CompareWindow.blank]
  have hschedule {s : Editor} (hs : s.hasWindow w = true) : R s (after (do
      EditorM.scheduleComparison w
      modify fun e => { e with comparing := some w }) s) :=
    Leads.bindAt (h.scheduleComparison hs) fun _ =>
      h.useWindow _ (present_scheduleComparison w s hs)
  refine trans_of R (h.openWindow e e.settings.theme) ?_
  unfold EditorM.makeWindow
  rw [after_get_bind, after_set_bind]
  split
  · refine Leads.bindAt (h.overlooks.changeBox _ _ made) fun _ =>
      Leads.bindAt (h.overlooks.changeBox _ _ _) fun _ => hschedule ?_
    exact overlooks_present.changeBox _ _ _ (overlooks_present.changeBox _ _ made hmade)
  · exact hschedule hmade

theorem openCompare : Leads R openCompare := by
  have hmake (lifted : Bool) : Leads R (do
      if !lifted then EditorM.makeWindow (← get).activeText) :=
    .ite (fun _ => .get fun _ => h.makeWindow _) fun _ => .pure _
  refine .get fun e => ?_
  split
  · refine .bind (.tryCatch (.bind (h.overlooks.liftWindow _) fun _ => .pure _) fun _ => ?_)
      fun lifted => hmake lifted
    exact .bind (.modify h.leaveWindow) fun _ => .pure _
  · exact .bind (.pure _) fun lifted => hmake lifted

theorem destroyWindow {w : Nat} {e : Editor}
    (hlose : R e (e.modifyWindow w fun window => { window with alive := false })) :
    R e (after (destroyWindow w) e) := by
  unfold EditorM.destroyWindow
  refine Leads.bindAt (Leads.attempt _ e) fun _ => ?_
  rw [after_attempt]
  exact trans_of R hlose (h.dropTimers _ _)

theorem closeWindow (w : Nat) : Leads R (closeWindow w) := by
  refine .bind (h.comparisonHost w).cancel fun _ => fun e => ?_
  rw [after_modify_bind]
  refine trans_of R (h.leaveWindow e) ?_
  rw [after_tryCatch]
  have hdestroy := h.destroyWindow (w := w) (h.loseWindow { e with comparing := none } (by simp))
  split
  · exact hdestroy
  · exact hdestroy

theorem destroyScreen : Leads R destroyScreen :=
  .bind (.attempt _) fun _ => .modify h.close

theorem closeEditor : Leads R closeEditor := by
  refine .bind h.feedbackHost.cancel fun _ => .finalize ?_ ?_
  · exact .bind h.overlooks.saveSession fun _ => h.overlooks.saveSettings
  · exact .bind (.modify fun e => h.dropRequests e (by simp [Client.close, Client.empty]))
      fun _ => h.destroyScreen

/-! ### Buttons -/

theorem toggleTheme : Reaches R toggleTheme :=
  .bind (.modify fun _ => h.overlooks.aside rfl) (.modify fun _ => .of_eq rfl rfl) fun _ =>
    .bind h.overlooks.applyTheme sameContents_applyTheme fun _ =>
      .bind h.overlooks.saveSettings sameContents_saveSettings fun _ =>
        .bind h.feedbackHost.cancel sameContents_feedbackHost.cancel fun _ => .begins .feedback

theorem applyReshape (hQ : Q .warning) {e : Editor}
    (hwarn : e.setup.engine = .inline → ∀ payload, Leads R (warnIfInvalid payload))
    (tab content : Text) (payload : Json) : R e (after (applyReshape tab content payload) e) := by
  unfold EditorM.applyReshape
  rw [after_get_bind]
  split
  · split
    · split
      · exact h.ask _ _ hQ hwarn
      · exact refl_of R e
    · exact h.overlooks.replaceText _ _ e
  · exact refl_of R e

theorem reshapeActive (hQ : Q .warning) {e : Editor}
    (hwarn : e.setup.engine = .inline → ∀ payload, Leads R (warnIfInvalid payload)) (op : Operation)
    (hq : Q (.reshape e.session.activeTab.id (e.tabText e.session.activeTab.id))) :
    R e (after (reshapeActive op) e) := by
  unfold EditorM.reshapeActive
  rw [after_get_bind]
  exact h.ask op _ hq fun hengine payload s =>
    h.applyReshape hQ (fun _ => hwarn hengine) _ _ payload

theorem formatSide (w : Nat) (s : Side) {e : Editor}
    (hq : ∀ b, e.box? (.side w s) = some b → Q (.reshapeSide w s b.content)) :
    R e (after (formatSide w s) e) := by
  unfold EditorM.formatSide
  rw [after_useBox_bind]
  split
  · next b hb =>
    rw [after_get_bind]
    exact h.ask _ _ (hq b hb) fun _ => h.overlooks.applySide _ _ _
  · exact refl_of R e

theorem feedback (hshows : Shows R) (hrun : ∀ (e : Editor) n, R e { e with run := n })
    (hverdict : ∀ run tab content, Q (.verdict run tab content)) (hstats : ∀ run, Q (.stats run)) :
    Leads R EditorM.feedback := by
  refine .getSet (fun e => hrun e _) fun e => .bind (fun _ => ?_) fun _ _ => ?_
  · exact h.ask _ _ (hverdict _ _ _) fun _ => hshows.applyVerdict _ _ _
  · exact h.ask _ _ (hstats _) fun _ => hshows.applyStats _

theorem comparison (w : Nat) (hpart : ∀ run part payload, Leads R (applyPart w run part payload))
    (hbegin : ∀ (e : Editor) run blank, R e (e.modifyWindow w fun window =>
      { window with run := run, gathered := .start blank }))
    (hQ : ∀ run part, Q (.part w run part)) : Leads R (EditorM.comparison w) := by
  have hask (op : Operation) (payload : Json) (run : Nat) (part : Part) :
      Leads R (EditorM.ask op payload (.part w run part) (applyPart w run part)) :=
    fun _ => h.ask op payload (hQ run part) fun _ => hpart _ _
  refine .bind (.useBox _) fun _ => .bind (.useBox _) fun _ => .withWindow fun window => ?_
  refine .bind (.modify fun e => hbegin e _ _) fun _ => .bind (hask _ _ _ _) fun _ =>
    .bind (hask _ _ _ _) fun _ => ?_
  exact .ite (fun _ => hask _ _ _ _) fun _ => .pure _

theorem handle (hshows : Shows R) (hQ : Q .warning)
    (hpart : ∀ w run part payload, Leads R (applyPart w run part payload)) (r : Reply)
    (payload : Json) : Leads R (r.handle payload) := by
  cases r with
  | verdict run tab content => exact hshows.applyVerdict run tab content payload
  | stats run => exact hshows.applyStats run payload
  | reshape tab content =>
    exact fun _ => h.applyReshape hQ (fun _ => hshows.warnIfInvalid) tab content payload
  | warning => exact hshows.warnIfInvalid payload
  | part w run p => exact hpart w run p payload
  | reshapeSide w s content => exact h.overlooks.applySide w s content payload

/-! ### Events -/

theorem arrived (hfeedback : Leads R EditorM.feedback)
    (hcomparison : ∀ w, Leads R (EditorM.comparison w)) {e e' : Editor} (harrives : Arrives R e e') :
    R e e' := by
  cases harrives with
  | inl hR => exact hR
  | inr hbegun =>
    obtain ⟨k, s, ns, hk, hR, -, rfl⟩ := hbegun
    have hled : R s (after k s) := by
      cases hk with
      | feedback => exact hfeedback s
      | comparison w => exact hcomparison w s
    have hnoticed : R (after k s) { after k s with notices := ns } := h.overlooks.aside rfl
    exact trans_of R hR (trans_of R hled hnoticed)

theorem press (ht : TabSteps R) (b : Button) {e : Editor}
    (hreshape : ∀ op, b = .reshape op → R e (after (EditorM.reshapeActive op) e))
    (hasked : ∀ r, Asks e (.press b) r → Q r) : Comes R (EditorM.press b) e := by
  cases b with
  | openFile => exact .inl (h.overlooks.openFile ht.newTab e)
  | save => exact .inl (h.overlooks.saveFile e)
  | copy => exact .inl (h.overlooks.copy e)
  | reshape op => exact .inl (hreshape op rfl)
  | compare => exact .inl (h.openCompare e)
  | newTab => exact .inl (Leads.bind (ht.newTab _ _) (fun _ => .pure _) e)
  | closeTab => exact .inl (ht.closeTab e)
  | theme => exact h.toggleTheme e
  | close => exact .inl (Leads.withCompare h.closeWindow e)
  | swap => exact .inl (Leads.withCompare h.overlooks.swapSides e)
  | formatSide s =>
    unfold EditorM.press withCompare Comes
    rw [after_get_bind]
    cases hw : e.comparing with
    | none => exact .inl (refl_of R e)
    | some w => exact .inl (h.formatSide w s fun b hb => hasked _ (.side hw hb))

theorem noticed {m : EditorM α} {e s : Editor} (hs : R e s) (htexts : SameContents e s)
    (hm : Comes R m s) (ns : List Notice) : Arrives R e { after m s with notices := ns } := by
  have hnoticed : R (after m s) { after m s with notices := ns } := h.overlooks.aside rfl
  refine .of_trans hs htexts ?_
  cases hm with
  | inl hm => exact .inl (trans_of R hm hnoticed)
  | inr hm =>
    obtain ⟨k, s', hk, hR, htexts', heq⟩ := hm
    exact .inr ⟨k, s', ns, hk, hR, htexts', by rw [heq]⟩

theorem call {m : EditorM α} {e s : Editor} (hs : R e s) (htexts : SameContents e s)
    (hm : Comes R m s) : Arrives R e (call m s).2 := by
  obtain ⟨ns, hcall⟩ := call_eq_after m s
  rw [hcall]
  exact h.noticed hs htexts hm ns

theorem pageShown (ht : TabSteps R) {e : Editor} {rest : List Signal}
    (hsignals : e.signals = .pageShown :: rest) :
    Arrives R e (EditorM.call EditorM.pageShown { e with signals := rest }).2 := by
  obtain ⟨ns, hcall⟩ := call_eq_after EditorM.pageShown { e with signals := rest }
  rw [hcall]
  cases hp : e.shownPage? with
  | none =>
    have hafter : after EditorM.pageShown { e with signals := rest } =
        after (pure () : EditorM Unit) { e with signals := rest } := by
      rw [EditorM.pageShown, after_get_bind, show shownPage? { e with signals := rest } = none from hp]
    rw [hafter]
    exact h.noticed (ht.dropSignal hsignals fun _ _ => hp) (.of_eq rfl rfl)
      (Reaches.of_leads (.pure _) _) ns
  | some p =>
    have hafter : after EditorM.pageShown { e with signals := rest } =
        after (Debounce.flush EditorM.feedbackHost (fun _ => EditorM.feedback) ())
          { e with signals := rest, session := e.session.activate p.tab } := by
      rw [EditorM.pageShown, after_get_bind,
        show shownPage? { e with signals := rest } = some p from hp]
      rfl
    have hflush : Reaches R (Debounce.flush EditorM.feedbackHost (fun _ => EditorM.feedback) ()) :=
      .bind h.feedbackHost.cancel sameContents_feedbackHost.cancel fun _ => .begins .feedback
    rw [hafter]
    exact h.noticed (ht.activate hsignals hp) (.of_eq rfl rfl) (hflush _) ns

/-- What a turn of the loop leads to, if the reply that it may hand on is dealt with along the
relation. -/
theorem turn (ht : TabSteps R) {stop : Int} {e e' : Editor} (hnext : e.turn? stop = some e')
    (hdelivers : ∀ r payload s, Delivers e r payload (.turn stop) → R e s →
      R s (after (r.handle payload) s)) : Arrives R e e' := by
  unfold turn? at hnext
  split at hnext
  · next s rest hsignals =>
    cases hnext
    split
    · cases s with
      | pageShown => exact h.pageShown ht hsignals
      | edited n =>
        exact h.call (ht.dropSignal hsignals (by simp)) (.of_eq rfl rfl) (.inl (h.edited n _))
    · next hclosed => exact .inl (ht.dropSignal hsignals fun _ hopen => absurd hopen hclosed)
  · next hsignals =>
    obtain ⟨t, hdue, rfl⟩ := Option.map_eq_some_iff.mp hnext
    have hlater (s : Editor) : R s { s with now := max e.now t.due } := h.overlooks.aside rfl
    have hclock := trans_of R (h.dropTimers e fun u => u.id != t.id) (hlater _)
    refine h.call hclock (.of_eq rfl rfl) ?_
    cases hjob : t.job with
    | feedback =>
      exact Reaches.bind (h.feedbackHost.setPending none) (.modify fun _ => .of_eq rfl rfl)
        (fun _ => .begins .feedback) _
    | comparison w =>
      exact Reaches.bind ((h.comparisonHost w).setPending none)
        (.modify fun s => sameContents_modifyWindow s w fun _ side => by cases side <;> rfl)
        (fun _ => .begins (.comparison w)) _
    | reply r payload => exact .inl (hdelivers r payload _ (.timer hsignals hdue hjob) hclock)

theorem act (ht : TabSteps R) {e : Editor} (a : Action) (hwait : (Event.act a).isWait = false)
    (hdestroy : a = .destroy .compare → R e (after (withCompare EditorM.destroyWindow) e))
    (hreshape : ∀ op, a = .press (.reshape op) → R e (after (EditorM.reshapeActive op) e))
    (hasked : ∀ r, Asks e a r → Q r)
    (hdelivers : ∀ r payload s, Delivers e r payload (.act a) → R e s →
      R s (after (r.handle payload) s)) : Arrives R e (e.act a) := by
  have hdone {β : Type} {m : EditorM β} (hm : R e (after m e)) : Arrives R e (EditorM.call m e).2 :=
    h.call (refl_of R e) (.of_eq rfl rfl) (.inl hm)
  have hpreset (d : Dialog) (answer : Text) : R e (e.preset d answer) := h.overlooks.aside rfl
  cases a with
  | wait t => cases hwait
  | press b =>
    exact h.call (refl_of R e) (.of_eq rfl rfl)
      (h.press ht b (fun op hb => hreshape op (hb ▸ rfl)) hasked)
  | edit i edit => exact hdone (Leads.withPage (fun _ => h.overlooks.useEdit _ _) e)
  | editSide s edit => exact hdone (Leads.withCompare (fun _ => h.overlooks.useEdit _ _) e)
  | «show» i =>
    refine hdone ?_
    unfold withPage
    rw [after_get_bind]
    split
    · next p hp => exact ht.showPage (List.mem_of_getElem? hp)
    · exact refl_of R e
  | doubleClick x answer =>
    exact h.call (hpreset .tabName answer) (.of_eq rfl rfl) (.inl (ht.renameTabAt x _))
  | openFile path =>
    exact h.call (hpreset .openPath path) (.of_eq rfl rfl)
      (.inl (h.overlooks.openFile ht.newTab _))
  | saveFile path =>
    exact h.call (hpreset .savePath path) (.of_eq rfl rfl) (.inl (h.overlooks.saveFile _))
  | newTab name content => exact hdone (ht.newTab _ _ e)
  | chooseIndent choice => exact hdone (h.overlooks.chooseIndent _ e)
  | close frame =>
    cases frame with
    | main => exact hdone (h.closeEditor e)
    | compare => exact hdone (Leads.withCompare h.closeWindow e)
  | destroy frame =>
    cases frame with
    | main => exact hdone (h.destroyScreen e)
    | compare => exact hdone (hdestroy rfl)
  | respond response =>
    refine hdone ?_
    unfold accept
    rw [after_get_bind, after_ofExcept_bind]
    split
    · next p hreceive =>
      obtain ⟨c, d⟩ := p
      have hclient : R e { e with client := c } := h.dropRequests e (Client.receive_ok hreceive).1
      rw [after_set_bind]
      split
      · exact trans_of R hclient (hdelivers _ _ _ (.response hreceive) hclient)
      · exact hclient
    · exact refl_of R e
  | refuse commands => exact .inl (h.overlooks.aside rfl)

theorem next (ht : TabSteps R) {e e' : Editor} {event : Event} (hwait : event.isWait = false)
    (hnext : e.next? event = some e')
    (hdestroy : event = .act (.destroy .compare) →
      R e (after (withCompare EditorM.destroyWindow) e))
    (hreshape : ∀ op, event = .act (.press (.reshape op)) →
      R e (after (EditorM.reshapeActive op) e))
    (hasked : ∀ a r, event = .act a → Asks e a r → Q r)
    (hdelivers : ∀ r payload s, Delivers e r payload event → R e s →
      R s (after (r.handle payload) s)) : Arrives R e e' := by
  cases event with
  | turn stop => exact h.turn ht hnext hdelivers
  | act a =>
    simp only [next?, step?] at hnext
    split at hnext
    · cases hnext
      exact h.act ht a hwait (fun ha => hdestroy (ha ▸ rfl)) (fun op ha => hreshape op (ha ▸ rfl))
        (fun r => hasked a r rfl) hdelivers
    · cases hnext

theorem tabSteps (hcalm : ∀ {e e' : Editor}, Calm e e' → R e e') : TabSteps R where
  dropSignal _ _ := hcalm ⟨rfl, rfl, .refl _, rfl⟩
  activate _ _ := hcalm ⟨rfl, rfl, .refl _, rfl⟩
  showPage _ := hcalm (quiet_showPage _ _)
  newTab name content e := hcalm (quiet_newTab name content e)
  renameTabAt x e := hcalm (quiet_renameTabAt x e)
  closeTab := by
    refine .get fun e => .bind (.modify fun _ => hcalm ⟨rfl, rfl, .refl _, rfl⟩) fun _ => ?_
    have hsave : Leads R (do EditorM.saveSession; EditorM.scheduleFeedback) :=
      .bind h.overlooks.saveSession fun _ => h.scheduleFeedback
    split
    · exact hsave
    · refine .ite (fun _ => ?_) fun _ => ?_
      · exact .bind (h.overlooks.replaceText _ _) fun _ =>
          .bind (.modify fun _ => hcalm ⟨rfl, rfl, .refl _, rfl⟩) fun _ => hsave
      · exact .bind (fun e => hcalm (quiet_removePage _ e)) fun _ => .get fun _ =>
          .bind (fun e => hcalm (quiet_selectTab _ e)) fun _ => hsave

end Editor.Allows

def EditorM.opening (path : Text) : EditorM Unit := do
  restoreTabs
  if path ≠ [] then openPath path
  scheduleFeedback

theorem eq_ok_of_toOption {ε α : Type} {x : Except ε α} {a : α} (h : x.toOption = some a) :
    x = .ok a := by
  cases x with
  | ok b => exact congrArg Except.ok (Option.some.inj h)
  | error f => cases h

/-- Surroundings in which no file is, with numbers for ids. -/
def Setup.numbered (engine : Engine) : Setup :=
  ⟨engine, "/none", ⟨2000, 1, 1, 0, 0, 0⟩, fun n => "t" ++ Text.ofNat n⟩

/-- The editor that starts with nothing to go by. -/
def Editor.fresh? (engine : Engine) : Option Editor :=
  (start (.numbered engine) .empty [] []).toOption

theorem Editor.start_of_fresh? {engine : Engine} {e₀ : Editor} (h : fresh? engine = some e₀) :
    start (.numbered engine) .empty [] [] = .ok e₀ :=
  eq_ok_of_toOption h

theorem Editor.start_eq {setup : Setup} {disk : Disk} {settings : Settings} {session : Session}
    (hsettings : disk.loadSettings (Path.join setup.directory settingsFile) = .ok settings)
    (hsession : disk.loadSession setup.freshId (Path.join setup.directory sessionFile) = .ok session)
    (refused : List Command) (path : Text) : start setup disk refused path =
      match (opening path).run.run
        (bare setup disk refused (session.tabs.length + 1) settings session) with
      | (.ok _, e) => .ok e
      | (.error f, _) => .error f := by
  unfold start
  rw [hsettings, hsession]
  rfl

theorem Editor.start_ok {setup : Setup} {disk : Disk} {refused : List Command} {path : Text}
    {e : Editor} (hstart : start setup disk refused path = .ok e) :
    ∃ settings session,
      disk.loadSettings (Path.join setup.directory settingsFile) = .ok settings ∧
      disk.loadSession setup.freshId (Path.join setup.directory sessionFile) = .ok session ∧
      (opening path).run.run (bare setup disk refused (session.tabs.length + 1) settings session) =
        (.ok (), e) := by
  unfold Editor.start at hstart
  simp only [bind, Except.bind] at hstart
  split at hstart
  · cases hstart
  · next settings hsettings =>
    split at hstart
    · cases hstart
    · next session hsession =>
      split at hstart
      · next hrun =>
        cases hstart
        exact ⟨settings, session, hsettings, hsession, hrun⟩
      · cases hstart

namespace Editor.Admits

variable {R : Editor → Editor → Prop} [IsPreorder Editor R] {Q : Reply → Prop} (h : Admits R Q)
include h

theorem tabs : TabSteps R := h.tabSteps h.calm

theorem destroyUsed : Leads R (withCompare destroyWindow) :=
  .withCompare fun w e => h.destroyWindow (h.loseAny e w)

theorem onward (hQ : Q .warning) {e e' : Editor} {event : Event} (hwait : event.isWait = false)
    (hnext : e.next? event = some e') (hasked : ∀ a r, event = .act a → Asks e a r → Q r)
    (hdelivers : ∀ r payload s, Delivers e r payload event → R e s →
      R s (after (r.handle payload) s)) : Arrives R e e' :=
  h.next h.tabs hwait hnext (fun _ => h.destroyUsed e) (fun op hop =>
    h.reshapeActive hQ (fun _ => h.warn) op (hasked _ _ hop (.reshape op))) hasked hdelivers

theorem compared (hstatus : ∀ {e e' : Editor}, SameStatus e e' → R e e') (w : Nat)
    (hQ : ∀ run part, Q (.part w run part)) : Leads R (EditorM.comparison w) :=
  h.comparison w (fun _ _ _ => (status_applyPart _ _ _ _).mono fun _ _ => hstatus)
    (fun _ _ _ => hstatus ⟨rfl, rfl⟩) hQ

theorem otherReply (hstatus : ∀ {e e' : Editor}, SameStatus e e' → R e e') (hQ : Q .warning)
    {r : Reply} (hr : r.feedbackRun? = none) (payload : Json) : Leads R (r.handle payload) := by
  cases r with
  | verdict => cases hr
  | stats => cases hr
  | reshape tab content => exact fun _ => h.applyReshape hQ (fun _ => h.warn) tab content payload
  | warning => exact h.warn payload
  | part w run p => exact (status_applyPart _ _ _ _).mono fun _ _ => hstatus
  | reshapeSide w s content => exact h.overlooks.applySide _ _ _ _

theorem start {setup : Setup} {disk : Disk} {refused : List Command} {path : Text} {e : Editor}
    (hstart : start setup disk refused path = .ok e) :
    ∃ taken settings session, R (bare setup disk refused taken settings session) e := by
  have hopening : Leads R (opening path) :=
    .bind (fun e => h.calm (quiet_restoreTabs e)) fun _ =>
      .ite (fun _ => .bind (h.overlooks.openPath h.tabs.newTab path) fun _ => h.scheduleFeedback)
        fun _ => h.scheduleFeedback
  obtain ⟨settings, session, -, -, hrun⟩ := start_ok hstart
  have hbare := hopening (bare setup disk refused (session.tabs.length + 1) settings session)
  rw [after, hrun] at hbare
  exact ⟨_, settings, session, hbare⟩

end Editor.Admits

end JsonDesk
