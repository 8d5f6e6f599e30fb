import JsonDesk.Proofs.Awaiting
import JsonDesk.Proofs.CompareWindows

set_option autoImplicit false

namespace JsonDesk

open EditorM

/-- The number of the comparison in a window that a reply belongs to. -/
def Reply.comparisonRun? (w : Nat) : Reply → Option Nat
  | .part v run _ => if v = w then some run else none
  | _ => none

namespace Editor

/-- No comparison of a window is begun, and nothing is collected or shown there. -/
structure Undisturbed (w : Nat) (e e' : Editor) : Prop where
  setup : e'.setup = e.setup
  outcome : e'.outcome w = e.outcome w

instance (w : Nat) : IsPreorder Editor (Undisturbed w) where
  refl _ := ⟨rfl, rfl⟩
  trans _ _ _ h h' := ⟨h'.setup.trans h.setup, h'.outcome.trans h.outcome⟩

theorem undisturbed_ignoresRequests (w : Nat) : IgnoresRequests (Undisturbed w) :=
  fun _ _ _ _ _ _ _ => ⟨rfl, rfl⟩

theorem WindowsKept.outcome {ws ws' : List CompareWindow} (h : WindowsKept ws ws') (w : Nat) :
    ws'[w]?.map (·.outcome) = ws[w]?.map (·.outcome) := by
  induction h generalizing w with
  | nil => rfl
  | cons hw _ ih =>
    cases w with
    | zero => exact congrArg some hw.outcome
    | succ w => exact ih w

theorem Calm.undisturbed {e e' : Editor} (h : Calm e e') (w : Nat) : Undisturbed w e e' :=
  ⟨congrArg Core.setup h.core, by rw [Editor.outcome, h.windows.outcome w, Editor.outcome]⟩

theorem undisturbed_loseWindow (w : Nat) (e : Editor) (v : Nat) :
    Undisturbed w e (e.modifyWindow v fun window => { window with alive := false }) := by
  refine ⟨rfl, ?_⟩
  simp only [Editor.outcome, modifyWindow, List.getElem?_modify]
  cases e.windows[w]? with
  | none => rfl
  | some x => by_cases hv : v = w <;> simp [hv, CompareWindow.outcome]

theorem undisturbed_close (w : Nat) (e : Editor) : Undisturbed w e { e with
    isOpen := false, timers := [],
    windows := e.windows.map fun window => { window with alive := false } } := by
  refine ⟨rfl, ?_⟩
  simp only [Editor.outcome, List.getElem?_map, Option.map_map]
  rfl

theorem undisturbed_modifyWindow {v w : Nat} (h : v ≠ w) (e : Editor)
    (f : CompareWindow → CompareWindow) : Undisturbed w e (e.modifyWindow v f) :=
  ⟨rfl, by simp [Editor.outcome, modifyWindow, h]⟩

theorem undisturbed_openWindow (w : Nat) (e : Editor) (theme : Theme) :
    Undisturbed w e { e with windows := e.windows ++ [.blank theme] } := by
  refine ⟨rfl, ?_⟩
  simp only [Editor.outcome, List.getElem?_append]
  split
  · rfl
  · next hge =>
    rw [List.getElem?_eq_none (Nat.le_of_not_lt hge)]
    cases w - e.windows.length <;> rfl

/-- A window is seen as before, and its newest comparison is the same. -/
structure SameSight (w : Nat) (e e' : Editor) : Prop where
  setup : e'.setup = e.setup
  sees : e'.sees w = e.sees w
  run : (e'.outcome w).run = (e.outcome w).run

instance (w : Nat) : IsPreorder Editor (SameSight w) where
  refl _ := ⟨rfl, rfl, rfl⟩
  trans _ _ _ h h' := ⟨h'.setup.trans h.setup, h'.sees.trans h.sees, h'.run.trans h.run⟩

theorem sameSight_ignoresRequests (w : Nat) : IgnoresRequests (SameSight w) :=
  fun _ _ _ _ _ _ _ => ⟨rfl, rfl, rfl⟩

theorem sees_modifyWindow (e : Editor) (w : Nat) {f : CompareWindow → CompareWindow}
    (hf : ∀ x, (f x).alive = x.alive) : (e.modifyWindow w f).sees w = e.sees w := by
  simp only [sees, modifyWindow, List.getElem?_modify_eq]
  cases e.windows[w]? with
  | none => rfl
  | some x => simp [hf]

theorem sameSight_modifyWindow (e : Editor) (w : Nat) {f : CompareWindow → CompareWindow}
    (hf : ∀ x, CompareWindow.SameRun x (f x)) : SameSight w e (e.modifyWindow w f) := by
  refine ⟨rfl, sees_modifyWindow e w fun x => (hf x).alive, ?_⟩
  simp only [Editor.outcome, modifyWindow, List.getElem?_modify_eq]
  cases e.windows[w]? with
  | none => rfl
  | some x => exact (hf x).run

/-- What is due to a reply of a comparison while a run is the newest and has captured two texts. -/
def PartDue (w run : Nat) (l r : Text) : Reply → Json → Prop
  | .part v m p, payload =>
    v = w → 0 < m ∧ m ≤ run ∧ (m = run → p.isAsked l r = true ∧ payload = p.due l r)
  | _, _ => True

variable {w run : Nat} {l r : Text} {reply : Reply}

theorem partDue_next {payload : Json} (h : PartDue w run l r reply payload) (l' r' : Text) :
    PartDue w (run + 1) l' r' reply payload := by
  cases reply with
  | part v m p =>
    intro hv
    have hm := h hv
    exact ⟨hm.1, by omega, by omega⟩
  | _ => trivial

theorem partDue_other (h : reply.comparisonRun? w = none) (payload : Json) :
    PartDue w run l r reply payload := by
  cases reply with
  | part v m p =>
    intro hv
    simp [Reply.comparisonRun?, hv] at h
  | _ => trivial

end Editor

open Editor

namespace EditorM

variable {w run : Nat} {l r : Text}

theorem admits_undisturbed (w : Nat) : Admits (Undisturbed w) fun _ => True where
  calm hc := hc.undisturbed w
  startTimer _ _ _ _ _ := (undisturbed_ignoresRequests w).startTimer _ _ _ _
  dropTimers e _ := (undisturbed_ignoresRequests w).dropTimers e _
  dropRequests e _ _ := (undisturbed_ignoresRequests w).dropRequests e _
  ask _ _ _ _ _ _ hh := (undisturbed_ignoresRequests w).ask _ _ _ hh
  warn _ := .bind (.ofExcept _) fun _ => .ite (fun _ => .setLabel fun _ => ⟨rfl, rfl⟩)
    fun _ => .pure _
  openWindow e theme := undisturbed_openWindow w e theme
  useWindow _ _ _ := ⟨rfl, rfl⟩
  leaveWindow _ := ⟨rfl, rfl⟩
  loseAny e v := undisturbed_loseWindow w e v
  close e := undisturbed_close w e

/-- The window is left alone, and only what is due to its newest comparison is still to come. -/
abbrev Aloof (w run : Nat) (l r : Text) : Editor → Editor → Prop :=
  Both (Undisturbed w) (Bears (PartDue w run l r))

theorem admits_aloof : Admits (Aloof w run l r) fun reply =>
    True ∧ ∀ payload, PartDue w run l r reply payload :=
  (admits_undisturbed w).both admits_bears

theorem shows_aloof : Shows (Aloof w run l r) :=
  shows_of_overlooks admits_aloof.overlooks fun _ _ =>
    .setLabel fun _ => ⟨⟨rfl, rfl⟩, fun he => he.of_core rfl⟩

theorem aloof_feedback : Leads (Aloof w run l r) feedback :=
  admits_aloof.feedback shows_aloof
    (fun _ _ => ⟨⟨rfl, rfl⟩, fun he => he.less (fun _ hw => hw) (fun _ ht => ht) rfl⟩)
    (fun _ _ _ => ⟨trivial, partDue_other rfl⟩) fun _ => ⟨trivial, partDue_other rfl⟩

theorem aloof_modifyWindow {v : Nat} (h : v ≠ w) (e : Editor) (f : CompareWindow → CompareWindow) :
    Aloof w run l r e (e.modifyWindow v f) :=
  ⟨undisturbed_modifyWindow h e f, fun he => he.of_core rfl⟩

theorem aloof_applyPart {v : Nat} (h : v ≠ w) (m : Nat) (p : Part) (payload : Json) :
    Leads (Aloof w run l r) (applyPart v m p payload) :=
  leads_applyPart v (fun e f _ => aloof_modifyWindow h e f) admits_aloof.overlooks.notice m p payload

theorem aloof_comparison {v : Nat} (h : v ≠ w) : Leads (Aloof w run l r) (comparison v) :=
  admits_aloof.comparison v (aloof_applyPart h) (fun e _ _ => aloof_modifyWindow h e _)
    fun _ _ => ⟨trivial, partDue_other (by simp [Reply.comparisonRun?, h])⟩

theorem aloof_handle {reply : Reply} (h : reply.comparisonRun? w = none) (payload : Json) :
    Leads (Aloof w run l r) (reply.handle payload) := by
  cases reply with
  | verdict m tab content => exact shows_aloof.applyVerdict _ _ _ _
  | stats m => exact shows_aloof.applyStats _ _
  | reshape tab content =>
    exact fun _ => admits_aloof.applyReshape ⟨trivial, partDue_other rfl⟩
      (fun _ => admits_aloof.warn) tab content payload
  | warning => exact admits_aloof.warn payload
  | part v m p =>
    have hv : v ≠ w := fun hv => by simp [Reply.comparisonRun?, hv] at h
    exact aloof_applyPart hv m p payload
  | reshapeSide v s content => exact admits_aloof.overlooks.applySide _ _ _ _

/-! ### The beginning of a comparison -/

def askPart (w run : Nat) (l r : Text) (p : Part) : EditorM Unit :=
  ask p.operation (p.payload l r) (.part w run p) (applyPart w run p)

theorem after_comparison (e : Editor) (w : Nat) : after (comparison w) e = e ∨
    ∃ l r, e.sideText? w .left = some l ∧ e.sideText? w .right = some r ∧
      after (comparison w) e = after ((Part.asked l r).forM (askPart w ((e.outcome w).run + 1) l r))
        (e.modifyWindow w fun window => { window with
          run := (e.outcome w).run + 1, gathered := .start (l.isBlank || r.isBlank) }) := by
  unfold comparison
  rw [after_useBox_bind]
  split
  · next left hleft =>
    rw [after_useBox_bind]
    split
    · next right hright =>
      have hl := sideText?_of_box? hleft
      have hr := sideText?_of_box? hright
      obtain ⟨x, hx, -⟩ := Option.map_eq_some_iff.mp hl
      refine .inr ⟨left.content, right.content, hl, hr, ?_⟩
      unfold withWindow
      rw [after_get_bind, hx, outcome_of_window hx]
      dsimp only
      rw [after_modify_bind]
      -- the third request is made or not, as it stands among the parts or not
      have hparts : (Part.asked left.content right.content).forM
          (askPart w (x.run + 1) left.content right.content) = (do
            askPart w (x.run + 1) left.content right.content (.verdict .left)
            askPart w (x.run + 1) left.content right.content (.verdict .right)
            if !(left.content.isBlank || right.content.isBlank) then
              askPart w (x.run + 1) left.content right.content .differences) := by
        unfold Part.asked
        cases left.content.isBlank || right.content.isBlank <;> simp [List.forM]
      exact (congrArg (fun m => after m _) hparts).symm
    · exact .inl rfl
  · exact .inl rfl

theorem sameSight_applyPart (w m : Nat) (p : Part) (payload : Json) :
    Leads (SameSight w) (applyPart w m p payload) :=
  leads_applyPart w (fun e _ hf => sameSight_modifyWindow e w hf) (fun _ _ => ⟨rfl, rfl, rfl⟩)
    m p payload

theorem sameSight_askParts (ps : List Part) :
    Leads (SameSight w) (ps.forM (askPart w run l r)) :=
  .forM fun p _ _ => (sameSight_ignoresRequests w).ask _ _ _ fun _ _ => sameSight_applyPart w run p _

theorem bears_askParts (hrun : 0 < run) :
    Leads (Bears (PartDue w run l r)) ((Part.asked l r).forM (askPart w run l r)) := by
  refine .forM fun p hp _ => bears_ask _ _ (fun result hresult _ => ?_) fun _ _ =>
    bears_of_core ((status_applyPart w run p _).mono fun _ _ hs => hs.1)
  rw [Part.serve_payload (Part.mem_asked.mp hp)] at hresult
  cases hresult
  exact ⟨hrun, Nat.le_refl _, fun _ => ⟨Part.mem_asked.mp hp, rfl⟩⟩

/-- A window that cannot be seen is left alone. -/
def Unseen (w : Nat) (e e' : Editor) : Prop :=
  e.sees w = false → Undisturbed w e e' ∧ e'.sees w = false

instance (w : Nat) : IsPreorder Editor (Unseen w) where
  refl _ h := ⟨refl_of _ _, h⟩
  trans _ _ _ h h' hs := ⟨trans_of _ (h hs).1 (h' (h hs).2).1, (h' (h hs).2).2⟩

theorem unseen_applyPart (w m : Nat) (p : Part) (payload : Json) :
    Leads (Unseen w) (applyPart w m p payload) := by
  intro e hs
  rw [after, run_applyPart_of_ne (.inr hs)]
  exact ⟨refl_of _ _, hs⟩

theorem undisturbed_askParts {e : Editor} (ps : List Part)
    (h : e.setup.engine ≠ .inline ∨ e.sees w = false) :
    Undisturbed w e (after (ps.forM (askPart w run l r)) e) := by
  cases h with
  | inl hengine =>
    induction ps generalizing e with
    | nil => exact refl_of _ _
    | cons p ps ih =>
      have hask : Undisturbed w e (after (askPart w run l r p) e) :=
        (undisturbed_ignoresRequests w).ask _ _ _ fun hinline => absurd hinline hengine
      exact Leads.bindAt hask fun _ => ih (by rwa [hask.setup])
  | inr hunseen =>
    have hignores : IgnoresRequests (Unseen w) := fun _ _ _ _ _ _ _ hs => ⟨⟨rfl, rfl⟩, hs⟩
    have hasks : Leads (Unseen w) (ps.forM (askPart w run l r)) :=
      .forM fun p _ _ => hignores.ask _ _ _ fun _ _ => unseen_applyPart w run p _
    exact (hasks e hunseen).1

/-- An inline engine serves a comparison part by part; some of them are there already. -/
structure Collecting (w run : Nat) (l r : Text) (got : Part → Prop) (e : Editor) : Prop where
  engine : e.setup.engine = .inline
  idle : e.client.waiting = []
  sees : e.sees w = true
  run : (e.outcome w).run = run
  belongs : (e.outcome w).Of l r
  got : ∀ p, (e.outcome w).gathered.get? p ≠ none ↔ got p

theorem attains_askPart {got : Part → Prop} {e : Editor} (h : Collecting w run l r got e) {p : Part}
    (hp : p.isAsked l r = true) :
    Attains (Collecting w run l r fun q => q = p ∨ got q) (askPart w run l r p) e := by
  have hrun := h.run
  subst hrun
  let asked : Editor := { e with idsTaken := e.idsTaken + 1, client := .empty }
  have hsees : asked.sees w = true := h.sees
  have hcollect := attains_applyPart hsees h.belongs.fits p
  have hall := (hcollect.and (status_applyPart w _ p _ asked)).and (sameSight_applyPart w _ p _ asked)
  refine (attains_ask h.engine h.idle (Part.serve_payload hp) _ hall).imp fun s hs => ?_
  obtain ⟨⟨houtcome, hcore, -⟩, hsight⟩ := hs
  refine ⟨?_, ?_, ?_, ?_, ?_, ?_⟩
  · rw [hsight.setup]
    exact h.engine
  · exact congrArg (fun c => c.client.waiting) hcore
  · rw [hsight.sees]
    exact h.sees
  · exact hsight.run
  · rw [houtcome]
    exact Outcome.of_settle (h.belongs.fits.put p)
  · intro q
    rw [houtcome, Outcome.get?_collect, ← h.got q]
    by_cases hq : q = p
    · simp [hq]
    · simp only [hq, false_or]
      rfl

theorem attains_askParts {got : Part → Prop} {e : Editor} {ps : List Part}
    (h : Collecting w run l r got e) (hps : ∀ p ∈ ps, p.isAsked l r = true) :
    Attains (Collecting w run l r fun q => q ∈ ps ∨ got q) (ps.forM (askPart w run l r)) e := by
  induction ps generalizing e got with
  | nil =>
    refine .pure _ ?_
    simpa using h
  | cons p ps ih =>
    rw [List.forall_mem_cons] at hps
    refine (attains_askPart h hps.1).bind fun _ s hs => (ih hs hps.2).imp fun s' hs' => ?_
    simpa [or_assoc, or_left_comm] using hs'

/-- A comparison of two texts is begun, and by an inline engine it is served as well. -/
structure Begun (w : Nat) (l r : Text) (e e' : Editor) : Prop where
  left : e.sideText? w .left = some l
  right : e.sideText? w .right = some r
  setup : e'.setup = e.setup
  run : (e'.outcome w).run = (e.outcome w).run + 1
  belongs : (e'.outcome w).Of l r
  got : ∀ p, (e'.outcome w).gathered.get? p ≠ none ↔
    p.isAsked l r = false ∨ (e'.setup.engine = .inline ∧ e'.sees w = true)
  shown : (e'.outcome w).gathered.isComplete = false → (e'.outcome w).shown = (e.outcome w).shown
  awaits : Awaits (PartDue w ((e.outcome w).run + 1) l r) e →
    Awaits (PartDue w ((e.outcome w).run + 1) l r) e'

theorem begun_comparison {e : Editor} (w : Nat)
    (hidle : e.setup.engine = .inline → e.client.waiting = []) :
    after (comparison w) e = e ∨ ∃ l r, Begun w l r e (after (comparison w) e) := by
  obtain hsame | ⟨l, r, hl, hr, heq⟩ := after_comparison e w
  · exact .inl hsame
  · rw [heq]
    refine .inr ⟨l, r, ?_⟩
    let n := (e.outcome w).run + 1
    let s : Editor := e.modifyWindow w fun window =>
      { window with run := n, gathered := .start (l.isBlank || r.isBlank) }
    obtain ⟨x, hx, -⟩ := Option.map_eq_some_iff.mp hl
    have hs : s.outcome w = { e.outcome w with
        run := n, gathered := .start (l.isBlank || r.isBlank) } := by
      rw [outcome_of_window hx]
      exact outcome_of_window (windows_modifyWindow hx _)
    let s' := after ((Part.asked l r).forM (askPart w n l r)) s
    have hsight : SameSight w s s' := sameSight_askParts _ s
    have hbears : Bears (PartDue w n l r) s s' := bears_askParts (Nat.succ_pos _) s
    have hstart : (s.outcome w).Of l r := by
      rw [hs]
      exact ⟨Gathered.fits_start l r, by simp [Gathered.start, Gathered.isComplete]⟩
    have hgot (p : Part) : (s.outcome w).gathered.get? p ≠ none ↔ p.isAsked l r = false := by
      rw [hs]
      exact Gathered.get?_start l r p
    have hrun : (s'.outcome w).run = n := by rw [hsight.run, hs]
    have hawaits (h : Awaits (PartDue w n l r) e) : Awaits (PartDue w n l r) s' :=
      hbears (h.of_core rfl)
    by_cases hnow : s.setup.engine = .inline ∧ s.sees w = true
    · obtain ⟨hengine, hsees⟩ := hnow
      have hcollecting : Collecting w n l r (fun p => p.isAsked l r = false) s :=
        ⟨hengine, hidle hengine, hsees, by rw [hs], hstart, hgot⟩
      have hdone := (attains_askParts hcollecting fun p hp => Part.mem_asked.mp hp).after
      have hall (p : Part) : (s'.outcome w).gathered.get? p ≠ none := by
        rw [hdone.got p, Part.mem_asked]
        exact Bool.eq_false_or_eq_true _
      refine ⟨hl, hr, hsight.setup, hrun, hdone.belongs, fun p => ?_, fun hmissing => ?_, hawaits⟩
      · exact iff_of_true (hall p) (.inr ⟨hdone.engine, hdone.sees⟩)
      · cases (Gathered.isComplete_iff.mpr hall).symm.trans hmissing
    · have hnot : s.setup.engine ≠ .inline ∨ s.sees w = false := by
        rwa [not_and_or, Bool.not_eq_true] at hnow
      have hsame : s'.outcome w = s.outcome w := (undisturbed_askParts _ hnot).outcome
      refine ⟨hl, hr, hsight.setup, hrun, hsame ▸ hstart, fun p => ?_, fun _ => ?_, hawaits⟩
      · rw [hsame, hgot p, hsight.setup, hsight.sees]
        exact ⟨.inl, fun h => h.resolve_right hnow⟩
      · rw [hsame, hs]
        rfl

end EditorM

end JsonDesk
