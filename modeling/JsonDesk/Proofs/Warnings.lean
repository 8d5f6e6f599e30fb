import JsonDesk.Proofs.Layouts
import JsonDesk.Proofs.LiveFeedback
import JsonDesk.Proofs.Overwriting

/-!
What is suggested beside a verdict.  A verdict that is shown sets the suggestion as well, but the
warning that follows the attempt to reshape an invalid text belongs to no run of live feedback: it may
come when a newer text has been found valid, and then it stays until the next verdict.
-/

set_option autoImplicit false

namespace JsonDesk

open EditorM

/-- What a warning suggests. -/
def StatusArea.mendFirst : Json := .str "Fix the JSON errors first."

/-- The labels for the verdict are the same; what is suggested may be that of a warning, if there is
one. -/
structure StatusArea.Alike (warned : Prop) (a b : StatusArea) : Prop where
  validity : b.validity = a.validity
  location : b.location = a.location
  message : b.message = a.message
  suggestion : b.suggestion = a.suggestion ∨ warned ∧ b.suggestion = mendFirst

namespace StatusArea.Alike

variable {warned : Prop} {a b c : StatusArea}

theorem refl (a : StatusArea) : Alike warned a a := ⟨rfl, rfl, rfl, .inl rfl⟩

theorem trans (h : Alike warned a b) (h' : Alike warned b c) : Alike warned a c where
  validity := h'.validity.trans h.validity
  location := h'.location.trans h.location
  message := h'.message.trans h.message
  suggestion := by
    cases h'.suggestion with
    | inl hsame =>
      rw [hsame]
      exact h.suggestion
    | inr hwarned => exact .inr hwarned

end StatusArea.Alike

theorem Report.error_of_valid {t : Text} (h : (ofText t).valid = true) :
    (ofText t).error = none := by
  unfold ofText at h ⊢
  cases hv : validate t with
  | valid v => rfl
  | invalid message d =>
    rw [hv] at h
    cases h

namespace Editor

/-- A verdict on the text of the newest run is shown: it is delivered, or else an inline engine gives
it as the run is begun. -/
inductive Judges (e : Editor) (event : Event) : Prop
  | delivered {tab content : Text} {payload : Json} :
    Delivers e (.verdict e.run tab content) payload event → Judges e event
  | atOnce {e' : Editor} : e.setup.engine = .inline → e.next? event = some e' → e.run < e'.run →
    Judges e event

/-- There is a warning: the report on an invalid text is delivered, or else an inline engine may give
it as the button to reshape a text is pressed. -/
inductive Warns (e : Editor) : Event → Prop
  | delivered {event : Event} {payload : Json} {report : Report} :
    Delivers e .warning payload event → Report.ofJson payload.orRecord = .ok report →
    report.valid = false → Warns e event
  | atOnce {op : Operation} : e.setup.engine = .inline → Warns e (.act (.press (.reshape op)))

/-- There was a warning, and no verdict has been shown since. -/
def WarnedSince (past : List (Editor × Event)) : Prop :=
  ∃ front s event back, past = front ++ (s, event) :: back ∧ Warns s event ∧
    ∀ p ∈ back, ¬ Judges p.1 p.2

/-- Beside a valid verdict nothing is told but what a warning has suggested since. -/
def Tidy (past : List (Editor × Event)) (a : StatusArea) : Prop :=
  ∀ theme, a.validity = some ⟨true, theme⟩ → a.location = [] ∧ a.message = [] ∧
    (a.suggestion = .str [] ∨ a.suggestion = StatusArea.mendFirst ∧ WarnedSince past)

variable {past : List (Editor × Event)} {e e' : Editor} {event : Event} {warned : Prop}

theorem Judges.delivers (h : Judges e event) (hnext : e.next? event = some e')
    (hrun : e'.run = e.run) :
    ∃ tab content payload, Delivers e (.verdict e.run tab content) payload event := by
  cases h with
  | delivered hd => exact ⟨_, _, _, hd⟩
  | atOnce _ hnext' hlt =>
    cases hnext'.symm.trans hnext
    exact absurd hlt (hrun ▸ Nat.lt_irrefl _)

theorem Tidy.next {a b : StatusArea} (h : Tidy past a) (hs : a.Alike (Warns e event) b)
    (hno : ¬ Judges e event) : Tidy (past ++ [(e, event)]) b := by
  intro theme hvalid
  obtain ⟨hlocation, hmessage, hsuggestion⟩ := h theme (hs.validity ▸ hvalid)
  refine ⟨hs.location.trans hlocation, hs.message.trans hmessage, ?_⟩
  cases hs.suggestion with
  | inr hwarned => exact .inr ⟨hwarned.2, past, e, event, [], rfl, hwarned.1, by simp⟩
  | inl hsame =>
    rw [hsame]
    refine hsuggestion.imp id fun ⟨hmend, front, s, before, back, heq, hwarns, hback⟩ => ⟨hmend, ?_⟩
    refine ⟨front, s, before, back ++ [(e, event)], by simp [heq], hwarns, ?_⟩
    exact List.forall_mem_append.mpr ⟨hback, List.forall_mem_singleton.mpr hno⟩

theorem ShowsReport.tidy {t stats : Text} {theme : Theme} (h : e.ShowsReport t theme stats)
    (past : List (Editor × Event)) : Tidy past e.status := by
  intro theme' hvalid
  have hverdict : (Report.ofText t).valid = true := by
    rw [h.validity] at hvalid
    exact congrArg Badge.valid (Option.some.inj hvalid)
  have hnone : (Report.ofText t).error = none := Report.error_of_valid hverdict
  rw [h.location, h.message, hnone]
  exact ⟨rfl, rfl, .inl (h.suggestion hverdict)⟩

/-- No run is begun, and the labels for the verdict are left alone. -/
structure SameLabels (warned : Prop) (e e' : Editor) : Prop where
  setup : e'.setup = e.setup
  run : e'.run = e.run
  isOpen : e'.isOpen = true → e.isOpen = true
  labels : e.status.Alike warned e'.status

instance : IsPreorder Editor (SameLabels warned) where
  refl _ := ⟨rfl, rfl, id, .refl _⟩
  trans _ _ _ h h' :=
    ⟨h'.setup.trans h.setup, h'.run.trans h.run, fun hopen => h.isOpen (h'.isOpen hopen),
      h.labels.trans h'.labels⟩

theorem sameLabels_of_status (h : SameStatus e e') : SameLabels warned e e' := by
  obtain ⟨hcore, hstatus⟩ := h
  have hopen : e'.isOpen = e.isOpen := congrArg Core.isOpen hcore
  exact ⟨congrArg Core.setup hcore, congrArg Core.run hcore, fun h => hopen ▸ h, hstatus ▸ .refl _⟩

end Editor

open Editor

namespace EditorM

variable {warned : Prop} {run : Nat} {text : Text}

theorem sameLabels_ignoresRequests : IgnoresRequests (SameLabels warned) :=
  fun _ _ _ _ _ _ _ => ⟨rfl, rfl, id, .refl _⟩

theorem allows_sameLabels : Allows (SameLabels warned) fun _ => True where
  overlooks := overlooks_calm.mono fun _ _ hc => sameLabels_of_status ⟨hc.core, hc.status⟩
  startTimer _ _ _ _ _ := sameLabels_ignoresRequests.startTimer _ _ _ _
  dropTimers e _ := sameLabels_ignoresRequests.dropTimers e _
  dropRequests e _ _ := sameLabels_ignoresRequests.dropRequests e _
  ask _ _ _ _ _ _ hh := sameLabels_ignoresRequests.ask _ _ _ hh
  openWindow _ _ := ⟨rfl, rfl, id, .refl _⟩
  useWindow _ _ _ := ⟨rfl, rfl, id, .refl _⟩
  leaveWindow _ := ⟨rfl, rfl, id, .refl _⟩
  loseWindow _ _ _ := ⟨rfl, rfl, id, .refl _⟩
  close _ := ⟨rfl, rfl, (fun h => by cases h), .refl _⟩

theorem sameLabels_warnIfInvalid {payload : Json}
    (hwarned : ∀ report, Report.ofJson payload.orRecord = .ok report → report.valid = false → warned) :
    Leads (SameLabels warned) (warnIfInvalid payload) := by
  intro e
  unfold warnIfInvalid
  rw [after_ofExcept_bind]
  split
  · next report hreport =>
    have hlabel (hinvalid : report.valid = false) : Leads (SameLabels warned)
        (setLabel .suggestion fun s => { s with suggestion := StatusArea.mendFirst }) :=
      .setLabel fun _ => ⟨rfl, rfl, id, rfl, rfl, rfl, .inr ⟨hwarned report hreport hinvalid, rfl⟩⟩
    exact Leads.ite (fun h => hlabel (by simpa using h)) (fun _ => .pure _) e
  · exact refl_of (SameLabels warned) e

theorem sameLabels_comparison (w : Nat) : Leads (SameLabels warned) (comparison w) :=
  allows_sameLabels.comparison w
    (fun _ _ _ => (status_applyPart _ _ _ _).mono fun _ _ => sameLabels_of_status)
    (fun _ _ _ => sameLabels_of_status ⟨rfl, rfl⟩) fun _ _ => trivial

/-- The labels for the verdict are left alone, and only what is due to the newest run is still to
come. -/
abbrev Unjudged (warned : Prop) (run : Nat) (text : Text) : Editor → Editor → Prop :=
  Both (SameLabels warned) (Bears (Due run text))

theorem allows_unjudged : Allows (Unjudged warned run text) fun r =>
    True ∧ ∀ payload, Due run text r payload :=
  allows_sameLabels.both admits_bears.toAllows

theorem unjudged_of_status {e e' : Editor} (h : SameStatus e e') : Unjudged warned run text e e' :=
  ⟨sameLabels_of_status h, fun ha => ha.of_core h.1⟩

theorem unjudged_warnIfInvalid {payload : Json}
    (hwarned : ∀ report, Report.ofJson payload.orRecord = .ok report → report.valid = false → warned) :
    Leads (Unjudged warned run text) (warnIfInvalid payload) :=
  fun e => ⟨sameLabels_warnIfInvalid hwarned e, admits_bears.warn payload e⟩

theorem unjudged_destroyWindow : Leads (Unjudged warned run text) (withCompare destroyWindow) :=
  .withCompare fun _ _ => allows_unjudged.destroyWindow (unjudged_of_status ⟨rfl, rfl⟩)

theorem alike_feedback {e : Editor} (hengine : e.setup.engine ≠ .inline) :
    e.status.Alike warned (after feedback e).status := by
  have hask (op : Operation) (payload : Json) (r : Reply) (handle : Json → EditorM Unit) (s : Editor)
      (hs : s.setup = e.setup) : SameLabels warned s (after (ask op payload r handle) s) :=
    sameLabels_ignoresRequests.ask op payload r fun hinline => absurd (hs ▸ hinline) hengine
  let s : Editor := { e with run := e.run + 1 }
  have hasked : SameLabels warned s (after
      (askFeedback s.run e.session.activeTab.id (e.tabText e.session.activeTab.id)) s) :=
    Leads.bindAt (hask _ _ _ _ s rfl) fun _ => hask _ _ _ _ _ (hask _ _ _ _ s rfl).setup
  rw [after_feedback]
  exact hasked.labels

theorem attains_warnIfInvalid {e : Editor} (hopen : e.isOpen = true) {t : Text}
    (hinvalid : (Report.ofText t).valid = false) :
    Attains (fun s => s.status = { e.status with suggestion := StatusArea.mendFirst })
      (warnIfInvalid (.obj (Report.ofText t).toMembers)) e := by
  refine .ofExcept (Report.ofJson_ofText t) ?_
  rw [hinvalid]
  have hlabel := attains_setLabel hopen .suggestion fun s =>
    { s with suggestion := StatusArea.mendFirst }
  exact hlabel.imp fun s hs => hs.2

end EditorM

namespace Editor

variable {past : List (Editor × Event)} {e e' : Editor} {event : Event}

theorem Delivers.warning_shown {t : Text}
    (h : Delivers e .warning (.obj (Report.ofText t).toMembers) event)
    (hnext : e.next? event = some e') (hopen : e.isOpen = true)
    (hinvalid : (Report.ofText t).valid = false) :
    e'.status = { e.status with suggestion := StatusArea.mendFirst } := by
  obtain ⟨c, timers, now, -, -, hcall⟩ := h.next?_eq hnext
  obtain ⟨ns, hafter⟩ := call_eq_after (warnIfInvalid (.obj (Report.ofText t).toMembers))
    { e with client := c, timers := timers, now := now }
  have hshown := (attains_warnIfInvalid
    (e := { e with client := c, timers := timers, now := now }) hopen hinvalid).after
  rw [hcall.trans hafter]
  exact hshown

namespace Follows

variable {text : Text}

theorem unjudged_handle (h : Follows past e text) {r : Reply} {payload : Json} {s : Editor}
    (hother : r.feedbackRun? = none) (hd : Delivers e r payload event)
    (hs : Unjudged (Warns e event) e.run text e s) :
    Unjudged (Warns e event) e.run text s (after (r.handle payload) s) := by
  cases r with
  | verdict => cases hother
  | stats => cases hother
  | reshape tab content =>
    -- an inline engine delivers nothing, so nothing is asked for and warned of at once
    refine allows_unjudged.applyReshape ⟨trivial, due_other rfl⟩ (fun hengine => ?_) tab content
      payload
    exact absurd hd (h.awaits.no_delivery (hs.1.setup ▸ hengine))
  | warning => exact unjudged_warnIfInvalid (fun _ => .delivered hd) s
  | part w run p => exact unjudged_of_status (status_applyPart _ _ _ _ s)
  | reshapeSide w s' content => exact allows_unjudged.overlooks.applySide _ _ _ _ s

theorem arrives_unjudged (h : Follows past e text) (hwait : event.isWait = false)
    (hnext : e.next? event = some e')
    (hother : ∀ r payload, Delivers e r payload event → r.feedbackRun? = none) :
    Arrives (Unjudged (Warns e event) e.run text) e e' := by
  have hallows : Allows (Unjudged (Warns e event) e.run text) _ := allows_unjudged
  have htabs := hallows.tabSteps fun hc => unjudged_of_status ⟨hc.core, hc.status⟩
  have hreshape (op : Operation) (hop : event = .act (.press (.reshape op))) :
      Unjudged (Warns e event) e.run text e (after (reshapeActive op) e) :=
    hallows.reshapeActive ⟨trivial, due_other rfl⟩
      (fun hengine _ => unjudged_warnIfInvalid fun _ _ _ => hop ▸ .atOnce hengine) op
      ⟨trivial, due_other rfl⟩
  exact hallows.next htabs hwait hnext (fun _ => unjudged_destroyWindow e) hreshape
    (fun a r _ hasks => ⟨trivial, due_other (by cases hasks <;> rfl)⟩)
    fun r payload s hd hs => h.unjudged_handle (hother r payload hd) hd hs

theorem tidy_other (h : Follows past e text) (htidy : e.isOpen = true → Tidy past e.status)
    (hwait : event.isWait = false) (hnext : e.next? event = some e')
    (hother : ∀ r payload, Delivers e r payload event → r.feedbackRun? = none)
    (hopen : e'.isOpen = true) : Tidy (past ++ [(e, event)]) e'.status := by
  have hnot {tab content : Text} {payload : Json} :
      ¬ Delivers e (.verdict e.run tab content) payload event := fun hd => by
    cases hother _ _ hd
  have hkept (hs : SameLabels (Warns e event) e e') : Tidy (past ++ [(e, event)]) e'.status := by
    refine (htidy (hs.isOpen hopen)).next hs.labels fun hjudges => ?_
    obtain ⟨_, _, _, hd⟩ := hjudges.delivers hnext hs.run
    exact hnot hd
  cases h.arrives_unjudged hwait hnext hother with
  | inl hs => exact hkept hs.1
  | inr hbegins =>
    obtain ⟨k, s, ns, hk, ⟨hs, hbears⟩, -, heq⟩ := hbegins
    cases hk with
    | comparison w =>
      have hnoticed : SameLabels (Warns e event) (after (comparison w) s) e' := by
        rw [heq]
        exact sameLabels_of_status ⟨rfl, rfl⟩
      exact hkept (trans_of (SameLabels (Warns e event)) hs
        (trans_of (SameLabels (Warns e event)) (sameLabels_comparison w s) hnoticed))
    | feedback =>
      have hstill : s.isOpen = true := by
        rw [heq] at hopen
        exact (sameDesk_feedback s).isOpen.symm.trans hopen
      rw [heq]
      by_cases hengine : s.setup.engine = .inline
      · have hidle := (hbears h.awaits).idle (by simp [hengine])
        exact (shown_feedback hengine hidle hstill).tidy _
      · have hlabels := hs.labels.trans (alike_feedback hengine)
        refine (htidy (hs.isOpen hstill)).next hlabels fun hjudges => ?_
        cases hjudges with
        | delivered hd => exact hnot hd
        | atOnce hinline => exact hengine (hs.setup ▸ hinline)

end Follows

/-- Whatever an event leads to, nothing stands beside a valid verdict but what a warning has suggested
since. -/
theorem Follows.tidy_next {text : Text} (h : Follows past e text)
    (htidy : e.isOpen = true → Tidy past e.status) (hwait : event.isWait = false)
    (hhonest : ∀ response, event = .act (.respond response) → e.Honest response)
    (hnext : e.next? event = some e') (hopen : e'.isOpen = true) :
    Tidy (past ++ [(e, event)]) e'.status := by
  by_cases hshown : ∃ r payload m, Delivers e r payload event ∧ r.feedbackRun? = some m
  · obtain ⟨r, payload, m, hd, hr⟩ := hshown
    have hdue : Due e.run text r payload := hd.awaited h.awaits hhonest
    obtain ⟨hrun, hsame, -⟩ := hd.follows_core hr hnext
    have hstill : e.isOpen = true := hsame ▸ hopen
    -- a reply that shows no verdict judges nothing
    have hno (hstale : ∀ tab content, r ≠ .verdict e.run tab content) : ¬ Judges e event := by
      intro hjudges
      obtain ⟨tab, content, _, hd'⟩ := hjudges.delivers hnext hrun
      exact hstale tab content (hd.unique hd').1.symm
    by_cases hm : m = e.run
    · cases hm
      cases r with
      | verdict run tab content =>
        cases hr
        obtain ⟨-, rfl, -⟩ := hdue
        exact (hd.verdict_shown hnext hstill).tidy _
      | stats run =>
        cases hr
        obtain rfl := hdue.2 rfl
        rw [hd.stats_shown hnext hstill]
        exact (htidy hstill).next (b := { e.status with stats := _ }) ⟨rfl, rfl, rfl, .inl rfl⟩
          (hno fun _ _ heq => by cases heq)
      | _ => cases hr
    · obtain ⟨c, timers, now, -, -, rfl⟩ := hd.stale hr hm hnext
      refine (htidy hstill).next (.refl _) (hno fun tab content heq => ?_)
      rw [heq] at hr
      exact hm (Option.some.inj hr).symm
  · exact h.tidy_other htidy hwait hnext (fun r payload hd =>
      Option.eq_none_iff_forall_ne_some.mpr fun m hr => hshown ⟨r, payload, m, hd, hr⟩) hopen

theorem Course.tidy {setup : Setup} {disk : Disk} {refused : List Command} {path : Text}
    {e₀ : Editor} (h : Course e₀ past e)
    (hstart : Editor.start setup disk refused path = .ok e₀) (hopen : e.isOpen = true) :
    Tidy past e.status := by
  induction h with
  | start =>
    obtain ⟨taken, settings, session, hsteady⟩ := admits_steady.start hstart
    intro theme hvalid
    cases hsteady.validity.symm.trans hvalid
  | @step past s s' event hcourse hwait hhonest hnext ih =>
    obtain ⟨text, hfollows⟩ := hcourse.follows hstart
    exact hfollows.tidy_next ih hwait hhonest hnext hopen
  | clock now _ ih => exact ih hopen

theorem not_valid_opener : (Report.ofText "[").valid = false :=
  (Report.valid_ofText _).trans (Verdict.not_isValid_of_decode (by decide) (by cbv))

/-- What becomes of an opener by itself: it is minified to itself and found invalid. -/
def openerMinified : Service where
  op := .minify
  payload := .str "["
  result := .str "["
  served := by
    have hinvalid := (Report.valid_ofText _).symm.trans not_valid_opener
    have hsame := Reshape.reshape_of_invalid .keep none hinvalid
    rw [Text.reshape_keep_none] at hsame
    show Except.ok (Json.str (Text.minify "[")) = _
    rw [Except.ok.inj hsame]

def openerFound : Service :=
  ⟨.validate, .str "[", .obj (Report.ofText "[").toMembers, rfl⟩

def blankFound : Service :=
  ⟨.validate, .str [], .obj (Report.ofText []).toMembers, rfl⟩

/-- The verdict on an opener that was sent to be minified comes last, when that is gone already and
no text at all has been found valid. -/
theorem exists_mended : ∃ e₀ s₁ s₂ s₃ s₄ e : Editor, ∃ r₁ r₃ badge,
    fresh? .remote = some e₀ ∧
    e₀.follow [.act (.edit 0 (.replace "[")), .act (.press (.reshape .minify))] = some s₁ ∧
    s₁.respond? openerMinified "t2" = some (r₁, s₂) ∧
    s₂.follow [.act (.edit 0 (.replace [])), .act (.press .theme)] = some s₃ ∧
    s₃.respond? blankFound "t4" = some (r₃, s₄) ∧
    s₄.respond? openerFound "t3" = some (.warning, e) ∧
    s₄.isOpen = true ∧ s₄.tabText "t0" = [] ∧ s₄.status.validity = some badge ∧
    badge.valid = true := by
  have hscene : ((fresh? .remote).bind fun e₀ =>
      (e₀.follow [.act (.edit 0 (.replace "[")), .act (.press (.reshape .minify))]).bind fun s₁ =>
      (s₁.respond? openerMinified "t2").bind fun (_, s₂) =>
      (s₂.follow [.act (.edit 0 (.replace [])), .act (.press .theme)]).bind fun s₃ =>
      (s₃.respond? blankFound "t4").map fun (_, s₄) =>
        ((s₄.respond? openerFound "t3").map Prod.fst, s₄.isOpen, s₄.tabText "t0",
          s₄.status.validity.map (·.valid))) =
      some (some Reply.warning, true, [], some true) := by
    decide +kernel
  obtain ⟨e₀, hstart, hscene⟩ := Option.bind_eq_some_iff.mp hscene
  obtain ⟨s₁, h₁, hscene⟩ := Option.bind_eq_some_iff.mp hscene
  obtain ⟨⟨r₁, s₂⟩, h₂, hscene⟩ := Option.bind_eq_some_iff.mp hscene
  obtain ⟨s₃, h₃, hscene⟩ := Option.bind_eq_some_iff.mp hscene
  obtain ⟨⟨r₃, s₄⟩, h₄, hscene⟩ := Option.map_eq_some_iff.mp hscene
  simp only [Prod.mk.injEq] at hscene
  obtain ⟨hwarning, hopen, htext, hvalidity⟩ := hscene
  obtain ⟨⟨_, e⟩, h₅, rfl⟩ := Option.map_eq_some_iff.mp hwarning
  obtain ⟨badge, hbadge, hvalid⟩ := Option.map_eq_some_iff.mp hvalidity
  exact ⟨e₀, s₁, s₂, s₃, s₄, e, r₁, r₃, badge, hstart, h₁, h₂, h₃, h₄, h₅, hopen, htext, hbadge,
    hvalid⟩

/-- Beside a valid verdict there is no location and no message, but there may be a suggestion: that of
a warning which came after the verdict, whatever text it was about.  Such a warning is shown beside
any verdict. -/
theorem valid_beside_warning {setup : Setup} {disk : Disk} {refused : List Command} {path : Text}
    {e₀ e : Editor} {past : List (Editor × Event)} (hstart : start setup disk refused path = .ok e₀)
    (hcourse : Course e₀ past e) (hopen : e.isOpen = true) :
    (∀ theme, e.status.validity = some ⟨true, theme⟩ →
      e.status.location = [] ∧ e.status.message = [] ∧
        (e.status.suggestion = .str [] ∨
          e.status.suggestion = StatusArea.mendFirst ∧ WarnedSince past)) ∧
    ∀ event e' t, e.next? event = some e' →
      Delivers e .warning (.obj (Report.ofText t).toMembers) event →
      (Report.ofText t).valid = false →
      e'.status = { e.status with suggestion := StatusArea.mendFirst } :=
  ⟨hcourse.tidy hstart hopen, fun _ _ _ hnext hd hinvalid =>
    hd.warning_shown hnext hopen hinvalid⟩

/-- An invalid text is sent to be minified and then taken away.  That there is no text is found valid
before the engine says that the older text is invalid. -/
theorem valid_beside_warning_mended :
    ∃ setup e₀ past e theme, start setup .empty [] [] = .ok e₀ ∧ Course e₀ past e ∧
      e.tabText "t0" = [] ∧ e.status.validity = some ⟨true, theme⟩ ∧
      e.status.suggestion = StatusArea.mendFirst ∧ WarnedSince past := by
  obtain ⟨e₀, s₁, s₂, s₃, s₄, e, r₁, r₃, badge, hstart, h₁, h₂, h₃, h₄, h₅, hopen, htext, hbadge,
    hvalid⟩ := exists_mended
  have hstart := start_of_fresh? hstart
  obtain ⟨past₁, hcourse₁⟩ := course_of_follow h₁ rfl (by simp)
  obtain ⟨past₃, hcourse₃⟩ := (hcourse₁.respond h₂).follow h₃ rfl (by simp)
  have hcourse₄ := hcourse₃.respond h₄
  have hcourse := hcourse₄.respond h₅
  have hnext := (respond?_eq_some h₅).2.2
  have hd : Delivers s₄ .warning (.obj (Report.ofText "[").toMembers)
      (.act (.respond (openerFound.response "t3"))) := delivers_of_respond? h₅
  have hsame : SameTexts s₄ e := by
    obtain ⟨s, hbefore, hafter⟩ := hd.handled hnext
    exact trans_of SameTexts hbefore (trans_of SameTexts (still_warnIfInvalid _ s) hafter)
  have hstatus := (valid_beside_warning hstart hcourse₄ hopen).2 _ _ _ hnext hd not_valid_opener
  have hshown : e.status.validity = some ⟨true, badge.theme⟩ := by
    rw [hstatus, ← hvalid]
    exact hbadge
  obtain ⟨-, -, hnone | hwarned⟩ := (valid_beside_warning hstart hcourse
    (hsame.isOpen.trans hopen)).1 _ hshown
  · rw [hstatus] at hnone
    cases hnone
  · exact ⟨_, e₀, _, e, _, hstart, hcourse, (hsame.tabText _).trans htext, hshown, hwarned⟩

end Editor

end JsonDesk
