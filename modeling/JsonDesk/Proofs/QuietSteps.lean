import JsonDesk.Proofs.Steps
import Mathlib.Data.List.Forall2

/-!
Steps aside from the course of things: whatever they show, save or ask the user, afterwards the same
requests wait, the same timers run, and the status area and the comparisons are what they were.
-/

set_option autoImplicit false

namespace JsonDesk

open EditorM

/-- What a compare window has of its newest comparison, and what it shows. -/
structure Outcome where
  run : Nat
  gathered : Gathered
  summary : Text
  rows : List Row

def CompareWindow.outcome (w : CompareWindow) : Outcome := ⟨w.run, w.gathered, w.summary, w.rows⟩

/-- No other comparison is the newest, and the window is there if it was. -/
structure CompareWindow.SameRun (w w' : CompareWindow) : Prop where
  run : w'.run = w.run
  alive : w'.alive = w.alive

/-- Nothing is shown anew on a window, and it is there if it was. -/
structure CompareWindow.Kept (w w' : CompareWindow) : Prop where
  outcome : w'.outcome = w.outcome
  alive : w'.alive = w.alive

namespace Editor

/-- The part of an editor that decides what is still to come. -/
structure Core where
  setup : Setup
  isOpen : Bool
  client : Client Reply
  timers : List (Timer Job)
  run : Nat

def core (e : Editor) : Core := ⟨e.setup, e.isOpen, e.client, e.timers, e.run⟩

def SameCore (e e' : Editor) : Prop := e'.core = e.core

instance : IsPreorder Editor SameCore where
  refl _ := rfl
  trans _ _ _ h h' := h'.trans h

def hasWindow (e : Editor) (w : Nat) : Bool := e.windows[w]?.any (·.alive)

theorem hasWindow_modifyWindow (e : Editor) (w : Nat) {f : CompareWindow → CompareWindow}
    (hf : ∀ x, (f x).alive = x.alive) (v : Nat) :
    (e.modifyWindow w f).hasWindow v = e.hasWindow v := by
  simp only [hasWindow, modifyWindow, List.getElem?_modify]
  cases e.windows[v]? with
  | none => rfl
  | some x =>
    by_cases h : w = v
    · simp [h, hf]
    · simp [h]

theorem hasWindow_modifyWindow_of_ne (e : Editor) {v w : Nat} (f : CompareWindow → CompareWindow)
    (h : w ≠ v) : (e.modifyWindow w f).hasWindow v = e.hasWindow v := by
  simp [hasWindow, modifyWindow, h]

theorem hasWindow_lose (e : Editor) (w : Nat) :
    (e.modifyWindow w fun x => { x with alive := false }).hasWindow w = false := by
  simp only [hasWindow, modifyWindow, List.getElem?_modify_eq]
  cases e.windows[w]? <;> rfl

def WindowsKept (ws ws' : List CompareWindow) : Prop := List.Forall₂ CompareWindow.Kept ws ws'

namespace WindowsKept

theorem refl (ws : List CompareWindow) : WindowsKept ws ws :=
  List.forall₂_same.mpr fun _ _ => ⟨rfl, rfl⟩

theorem trans {ws ws' ws'' : List CompareWindow} (h : WindowsKept ws ws')
    (h' : WindowsKept ws' ws'') : WindowsKept ws ws'' := by
  induction h generalizing ws'' with
  | nil => exact h'
  | cons hw _ ih =>
    cases h' with
    | cons hw' h' =>
      exact .cons ⟨hw'.outcome.trans hw.outcome, hw'.alive.trans hw.alive⟩ (ih h')

theorem modify (ws : List CompareWindow) (i : Nat) {f : CompareWindow → CompareWindow}
    (hf : ∀ w, CompareWindow.Kept w (f w)) : WindowsKept ws (ws.modify i f) := by
  induction ws generalizing i with
  | nil => cases i <;> exact .nil
  | cons w ws ih =>
    cases i with
    | zero => exact .cons (hf w) (refl ws)
    | succ i => exact .cons ⟨rfl, rfl⟩ (ih i)

theorem alive {ws ws' : List CompareWindow} (h : WindowsKept ws ws') (w : Nat) :
    ws'[w]?.any (·.alive) = ws[w]?.any (·.alive) := by
  induction h generalizing w with
  | nil => rfl
  | cons hw _ ih =>
    cases w with
    | zero => exact hw.alive
    | succ w => exact ih w

end WindowsKept

/-- Nothing that is asked for, no outcome that is shown and no window that is in use is another
one. -/
structure Calm (e e' : Editor) : Prop where
  core : SameCore e e'
  status : e'.status = e.status
  windows : WindowsKept e.windows e'.windows
  comparing : e'.comparing = e.comparing

instance : IsPreorder Editor Calm where
  refl _ := ⟨rfl, rfl, .refl _, rfl⟩
  trans _ _ _ h h' :=
    ⟨trans_of SameCore h.core h'.core, h'.status.trans h.status, h.windows.trans h'.windows,
      h'.comparing.trans h.comparing⟩

end Editor

open Editor

/-- The editors differ at most in what is neither a tab, a text, an outcome nor a request. -/
def Editor.SameAside (e e' : Editor) : Prop :=
  e' = { e with
    disk := e'.disk, refused := e'.refused, now := e'.now, clipboard := e'.clipboard,
    answers := e'.answers, notices := e'.notices, settings := e'.settings,
    indentChoice := e'.indentChoice, feedbackTimer := e'.feedbackTimer,
    lastLogged := e'.lastLogged }

/-- The relation does not look at texts, colours, files and the like. -/
structure Editor.Overlooks (R : Editor → Editor → Prop) : Prop where
  aside : ∀ {e e' : Editor}, SameAside e e' → R e e'
  box : ∀ (e : Editor) (n : BoxName) (b : TextBox), R e (e.setBox n b)
  edited : ∀ (e : Editor) (n : BoxName), R e { e with signals := e.signals ++ [.edited n] }
  content : ∀ (e : Editor) (tab content : Text),
    R e { e with session := e.session.update tab content }
  repaint : ∀ (e : Editor) (theme : Theme),
    R e { e with pages := e.pages.map fun p => { p with theme := theme } }
  windows : ∀ (e : Editor) {ws : List CompareWindow}, WindowsKept e.windows ws →
    R e { e with windows := ws }

namespace Editor

def Both (R R' : Editor → Editor → Prop) (e e' : Editor) : Prop := R e e' ∧ R' e e'

instance {R R' : Editor → Editor → Prop} [IsPreorder Editor R] [IsPreorder Editor R'] :
    IsPreorder Editor (Both R R') where
  refl e := ⟨refl_of R e, refl_of R' e⟩
  trans _ _ _ h h' := ⟨trans_of R h.1 h'.1, trans_of R' h.2 h'.2⟩

theorem Overlooks.both {R R' : Editor → Editor → Prop} (h : Overlooks R) (h' : Overlooks R') :
    Overlooks (Both R R') where
  aside hs := ⟨h.aside hs, h'.aside hs⟩
  box e n b := ⟨h.box e n b, h'.box e n b⟩
  edited e n := ⟨h.edited e n, h'.edited e n⟩
  content e tab content := ⟨h.content e tab content, h'.content e tab content⟩
  repaint e theme := ⟨h.repaint e theme, h'.repaint e theme⟩
  windows e _ hs := ⟨h.windows e hs, h'.windows e hs⟩

end Editor

namespace EditorM

variable {α : Type}

theorem leads_markLine {R : Editor → Editor → Prop} [IsPreorder Editor R]
    (hbox : ∀ n f, Leads R (changeBox n f)) (hnotice : ∀ n, Leads R (notice n)) (p : Page)
    (line : Json) : Leads R (markLine p line) := by
  refine .bind (.useBox _) fun box => .bind (.ofExcept _) fun marked => ?_
  split
  · exact .bind (hbox _ _) fun _ => hnotice _
  · exact .pure _

end EditorM

namespace Editor.Overlooks

variable {R : Editor → Editor → Prop} [IsPreorder Editor R] (h : Overlooks R) {α : Type}
include h

omit [IsPreorder Editor R] in
theorem modifyWindow (e : Editor) (w : Nat) {f : CompareWindow → CompareWindow}
    (hf : ∀ w, CompareWindow.Kept w (f w)) : R e (e.modifyWindow w f) :=
  h.windows e (.modify _ _ hf)

omit [IsPreorder Editor R] in
theorem notice (n : Notice) : Leads R (EditorM.notice n) := fun _ => h.aside rfl

theorem onDisk (m : DiskM α) : Leads R (onDisk m) :=
  .get fun _ => .bind (.modify fun _ => h.aside rfl) fun _ => .ofExcept _

theorem changeBox (n : BoxName) (f : TextBox → TextBox) : Leads R (changeBox n f) := by
  refine .bind (.useBox n) fun b => .bind (.modify fun e => h.box e n _) ?_
  intro _
  split
  · exact fun e => h.edited e n
  · exact .pure _

theorem replaceText (n : BoxName) (t : Text) : Leads R (replaceText n t) :=
  .bind (h.changeBox n _) fun _ => h.changeBox n _

theorem useEdit (n : BoxName) (edit : Edit) : Leads R (useEdit n edit) := by
  cases edit with
  | replace t => exact h.replaceText n t
  | append t => exact h.changeBox n _

theorem paintWindow (w : Nat) : Leads R (paintWindow w) :=
  .bind (.useBox _) fun _ => .modify fun e => h.modifyWindow e w fun _ => ⟨rfl, rfl⟩

theorem swapSides (w : Nat) : Leads R (swapSides w) :=
  .bind (.useBox _) fun _ => .bind (.useBox _) fun _ =>
    .bind (h.replaceText _ _) fun _ => h.replaceText _ _

theorem applySide (w : Nat) (s : Side) (content : Text) (payload : Json) :
    Leads R (applySide w s content payload) := by
  unfold EditorM.applySide
  split
  · refine .ite (fun _ => .bind (.useBox _) fun b => ?_) fun _ => .pure _
    exact .ite (fun _ => h.replaceText _ _) fun _ => .pure _
  · exact .pure _

theorem liftWindow (w : Nat) : Leads R (liftWindow w) :=
  .bind (.attempt _) fun _ => .bind (.useBox _) fun _ => h.notice _

theorem markLine (p : Page) (line : Json) : Leads R (markLine p line) :=
  leads_markLine h.changeBox h.notice p line

theorem logReport (content : Text) (report : Report) : Leads R (logReport content report) := by
  intro e
  unfold EditorM.logReport
  rw [after_get_bind]
  split
  · rw [after_set_bind]
    have hset : R e { e with lastLogged := some content } := h.aside rfl
    exact trans_of R hset (Leads.bind (h.onDisk _) (fun _ => .pure _) _)
  · exact refl_of R e

theorem contents (pages : List Page) (e : Editor) : R e { e with
    session := pages.foldl (fun s p => s.update p.tab p.box.content) e.session } := by
  induction pages generalizing e with
  | nil => exact refl_of R e
  | cons p pages ih => exact trans_of R (h.content e p.tab p.box.content) (ih _)

theorem saveSession : Leads R saveSession :=
  .bind (.modify fun e => h.contents e.pages e) fun _ => .get fun _ =>
    .bind (h.onDisk _) fun _ => .pure _

theorem saveSettings : Leads R saveSettings :=
  .get fun _ => .bind (h.onDisk _) fun _ => .pure _

theorem applyTheme : Leads R applyTheme := by
  refine .bind (.modify fun e => h.repaint e _) fun _ => .get fun e => ?_
  split
  · exact h.paintWindow _
  · exact .pure _

omit [IsPreorder Editor R] in
theorem takeAnswer (d : Dialog) : Leads R (takeAnswer d) := fun _ => h.aside rfl

theorem saveFile : Leads R saveFile := by
  refine .get fun e => .bind (h.notice _) fun _ => .bind (h.takeAnswer _) fun _ => ?_
  refine .ite (fun _ => .get fun _ => .tryCatch (h.onDisk _) fun f => ?_) fun _ => .pure _
  split
  · exact h.notice _
  · exact .throw _

theorem copy : Leads R copy :=
  .tryCatch (.bind (.attempt _) fun _ => .bind (.modify fun _ => h.aside rfl)
    fun _ => .bind (.attempt _) fun _ => .modify fun _ => h.aside rfl)
    fun _ => .pure _

theorem chooseIndent (choice : Text) : Leads R (chooseIndent choice) := by
  refine .bind (.modify fun _ => h.aside rfl) fun _ => ?_
  split
  · exact .bind (.modify fun _ => h.aside rfl) fun _ => h.saveSettings
  · exact .pure _

omit [IsPreorder Editor R] in
theorem mono {S : Editor → Editor → Prop} (hRS : ∀ e e', R e e' → S e e') : Overlooks S where
  aside h' := hRS _ _ (h.aside h')
  box e n b := hRS _ _ (h.box e n b)
  edited e n := hRS _ _ (h.edited e n)
  content e tab content := hRS _ _ (h.content e tab content)
  repaint e theme := hRS _ _ (h.repaint e theme)
  windows e _ h' := hRS _ _ (h.windows e h')

theorem openPath (hnew : ∀ name content, Leads R (newTab name content)) (path : Text) :
    Leads R (openPath path) := by
  refine .get fun e => ?_
  split
  · exact .bind (hnew _ _) fun _ => .pure _
  · exact h.notice _
  · exact .throw _

theorem openFile (hnew : ∀ name content, Leads R (newTab name content)) : Leads R openFile :=
  .bind (h.notice _) fun _ => .bind (h.takeAnswer _) fun _ =>
    .ite (fun _ => h.openPath hnew _) fun _ => .pure _

end Editor.Overlooks

namespace EditorM

variable {α : Type}

abbrev Quiet (m : EditorM α) : Prop := Leads Calm m

theorem overlooks_calm : Overlooks Calm where
  aside h := by
    rw [h]
    exact ⟨rfl, rfl, .refl _, rfl⟩
  box e n b := by
    cases n with
    | page k => exact ⟨rfl, rfl, .refl _, rfl⟩
    | side w s =>
      exact ⟨rfl, rfl, .modify _ _ fun _ => by cases s <;> exact ⟨rfl, rfl⟩, rfl⟩
  edited _ _ := ⟨rfl, rfl, .refl _, rfl⟩
  content _ _ _ := ⟨rfl, rfl, .refl _, rfl⟩
  repaint _ _ := ⟨rfl, rfl, .refl _, rfl⟩
  windows _ _ h := ⟨rfl, rfl, h, rfl⟩

theorem quiet_signal (s : Signal) : Quiet (signal s) := fun _ => ⟨rfl, rfl, .refl _, rfl⟩

theorem quiet_freshId : Quiet freshId := fun _ => ⟨rfl, rfl, .refl _, rfl⟩

theorem quiet_showPage (n : Nat) : Quiet (showPage n) :=
  .get fun _ => .ite (fun _ => .bind (.modify fun _ => ⟨rfl, rfl, .refl _, rfl⟩) fun _ =>
    quiet_signal _) fun _ => .pure _

theorem quiet_selectTab (tab : Text) : Quiet (selectTab tab) := by
  refine .get fun e => ?_
  split
  · exact quiet_showPage _
  · exact .pure _

theorem quiet_addPage (t : Tab) : Quiet (addPage t) := by
  refine .get fun e => .ite (fun _ => .bind (quiet_signal _) fun _ => .bind (quiet_signal _)
    fun _ => ?_) fun _ => ?_
  all_goals
    refine .bind (.modify fun _ => ⟨rfl, rfl, .refl _, rfl⟩) fun _ => ?_
    exact .ite (fun _ => .bind (quiet_showPage _) fun _ => overlooks_calm.applyTheme)
      fun _ => overlooks_calm.applyTheme

theorem quiet_restoreTabs : Quiet restoreTabs :=
  .get fun _ => .bind (.forM fun t _ => quiet_addPage t) fun _ =>
    .bind (.modify fun _ => ⟨rfl, rfl, .refl _, rfl⟩) fun _ => quiet_selectTab _

theorem quiet_newTab (name content : Text) : Quiet (newTab name content) :=
  .bind quiet_freshId fun _ => .bind (.modify fun _ => ⟨rfl, rfl, .refl _, rfl⟩) fun _ =>
    .get fun _ => .bind (quiet_addPage _) fun _ => .bind (quiet_selectTab _) fun _ =>
      .bind overlooks_calm.saveSession fun _ => .get fun _ => .pure _

theorem quiet_removePage (p : Page) : Quiet (removePage p) := by
  have hdestroy : Quiet (do
      attempt .destroy
      modify fun e =>
        { e with strayPages := e.strayPages.filter fun q => q.number != p.number }) :=
    .bind (.attempt _) fun _ => .modify fun _ => ⟨rfl, rfl, .refl _, rfl⟩
  refine .getSet (fun _ => ⟨rfl, rfl, .refl _, rfl⟩) fun e => .ite (fun _ => ?_) fun _ => hdestroy
  exact .bind (.modify fun _ => ⟨rfl, rfl, .refl _, rfl⟩) fun _ =>
    .bind (quiet_signal _) fun _ => hdestroy

theorem quiet_renameTabAt (x : Int) : Quiet (renameTabAt x) := by
  refine .get fun e => ?_
  dsimp only
  split
  · exact .pure _
  · split
    · exact .pure _
    · refine .bind (overlooks_calm.notice _) fun _ => .bind (overlooks_calm.takeAnswer _) fun _ => ?_
      refine .ite (fun _ => ?_) fun _ => .pure _
      split
      · exact .pure _
      · exact .bind (.modify fun _ => ⟨rfl, rfl, .refl _, rfl⟩) fun _ => overlooks_calm.saveSession

/-! ### Steps that show an outcome -/

theorem core_setLabel (l : Label) (f : StatusArea → StatusArea) :
    Leads SameCore (setLabel l f) :=
  .setLabel fun _ => rfl

structure Shows (R : Editor → Editor → Prop) : Prop where
  changeBox : ∀ n f, Leads R (changeBox n f)
  setLabel : ∀ l f, Leads R (setLabel l f)
  notice : ∀ n, Leads R (notice n)
  logReport : ∀ content report, Leads R (logReport content report)

namespace Shows

variable {R : Editor → Editor → Prop} [IsPreorder Editor R] (h : Shows R)
include h

omit [IsPreorder Editor R] in
theorem mono {S : Editor → Editor → Prop} (hRS : ∀ e e', R e e' → S e e') : Shows S where
  changeBox n f := (h.changeBox n f).mono hRS
  setLabel l f := (h.setLabel l f).mono hRS
  notice n := (h.notice n).mono hRS
  logReport content report := (h.logReport content report).mono hRS

theorem unmark (page : Option Page) : Leads R (unmark page) := by
  cases page with
  | some p => exact h.changeBox _ _
  | none => exact .pure _

theorem showReport (tab : Text) (report : Report) : Leads R (showReport tab report) := by
  refine .get fun e => .bind (h.unmark _) fun _ => ?_
  split
  · exact .bind (h.setLabel _ _) fun _ => .bind (h.setLabel _ _) fun _ =>
      .bind (h.setLabel _ _) fun _ => h.setLabel _ _
  · refine .bind (h.setLabel _ _) fun _ => .bind (h.setLabel _ _) fun _ =>
      .bind (h.setLabel _ _) fun _ => .bind (h.setLabel _ _) fun _ => ?_
    split
    · exact leads_markLine h.changeBox h.notice _ _
    · exact .pure _

theorem applyVerdict (run : Nat) (tab content : Text) (payload : Json) :
    Leads R (applyVerdict run tab content payload) :=
  .get fun _ => .ite (fun _ => .bind (.ofExcept _) fun _ => .bind (h.showReport _ _) fun _ =>
    h.logReport _ _) fun _ => .pure _

theorem applyStats (run : Nat) (payload : Json) : Leads R (applyStats run payload) :=
  .get fun _ => .ite (fun _ => .bind (.ofExcept _) fun _ => h.setLabel _ _) fun _ => .pure _

theorem warnIfInvalid (payload : Json) : Leads R (warnIfInvalid payload) :=
  .bind (.ofExcept _) fun _ => .ite (fun _ => h.setLabel _ _) fun _ => .pure _

end Shows

theorem shows_of_overlooks {R : Editor → Editor → Prop} [IsPreorder Editor R] (h : Overlooks R)
    (hlabel : ∀ l f, Leads R (setLabel l f)) : Shows R where
  changeBox := h.changeBox
  setLabel := hlabel
  notice := h.notice
  logReport := h.logReport

theorem overlooks_core : Overlooks SameCore where
  aside h := by rw [h]; rfl
  box _ n _ := by cases n <;> rfl
  edited _ _ := rfl
  content _ _ _ := rfl
  repaint _ _ := rfl
  windows _ _ _ := rfl

theorem shows_core : Shows SameCore := shows_of_overlooks overlooks_core core_setLabel

/-- The core and the status area are the same, whatever the compare windows show. -/
def SameStatus (e e' : Editor) : Prop := SameCore e e' ∧ e'.status = e.status

instance : IsPreorder Editor SameStatus where
  refl _ := ⟨rfl, rfl⟩
  trans _ _ _ h h' := ⟨trans_of SameCore h.1 h'.1, h'.2.trans h.2⟩

section

variable {R : Editor → Editor → Prop} [IsPreorder Editor R] (w : Nat)
  (hwindow : ∀ (e : Editor) f, (∀ x, CompareWindow.SameRun x (f x)) → R e (e.modifyWindow w f))
  (hnotice : ∀ n, Leads R (notice n))
include hwindow hnotice

theorem leads_showDifferences (payload : Json) (summarize : Bool) :
    Leads R (showDifferences w payload summarize) := by
  refine .ite (fun _ => .bind (.ofExcept _) fun _ => ?_) fun _ => .bind (.pure _) fun _ => ?_
  all_goals
    exact .bind (.ofExcept _) fun _ => .bind (.modify fun e => hwindow e _ fun _ => ⟨rfl, rfl⟩)
      fun _ => hnotice _

theorem leads_applyPart (run : Nat) (part : Part) (payload : Json) :
    Leads R (applyPart w run part payload) := by
  have hshow := leads_showDifferences w hwindow hnotice
  refine .get fun e => .ite (fun _ => ?_) fun _ => .pure _
  refine .bind (.isAlive w) fun alive => .ite (fun _ => ?_) fun _ => .pure _
  refine .bind (.modify fun e => hwindow e _ fun _ => ⟨rfl, rfl⟩) fun _ => ?_
  cases part with
  | verdict s =>
    have hview (x : CompareWindow) (v : SideView) : CompareWindow.SameRun x (x.setView s v) := by
      cases s <;> exact ⟨rfl, rfl⟩
    refine .bind (.ofExcept _) fun _ => .bind (.modify fun e => hwindow e _ fun x => hview x _)
      fun _ => .withWindow fun window => ?_
    split
    · exact .bind (.ofExcept _) fun _ => hshow _ _
    · exact .pure _
  | differences =>
    refine .withWindow fun window => ?_
    split
    · exact .bind (.ofExcept _) fun _ => hshow _ _
    · exact .pure _

end

theorem status_applyPart (w run : Nat) (part : Part) (payload : Json) :
    Leads SameStatus (applyPart w run part payload) :=
  leads_applyPart w (fun _ _ _ => ⟨rfl, rfl⟩) (fun _ _ => ⟨rfl, rfl⟩) run part payload

end EditorM

end JsonDesk
