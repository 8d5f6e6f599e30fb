import JsonDesk.Editor.Step
import JsonDesk.Text.Lines

/-!
Live feedback: the content of the active tab is validated and measured, and the results are shown
in the status area.  Runs are numbered, and a result of any run but the newest is dropped.
-/

set_option autoImplicit false

namespace JsonDesk.EditorM

def unmark (page : Option Page) : EditorM Unit := do
  match page with
  | some p => changeBox (.page p.number) (TextBox.setMark none)
  | none => return

/-- Marks a loosely typed line in the text of a page and scrolls to it. -/
def markLine (p : Page) (line : Json) : EditorM Unit := do
  let box ← useBox (.page p.number)
  let marked ← MonadExcept.ofExcept (Overlay.markedLine line (.ofNat box.content.lines.length))
  match marked with
  | some n =>
    changeBox (.page p.number) (TextBox.setMark (some n))
    notice (.scrolled (.page p.number) n)
  | none => return

/-- Shows a report on the content of a tab.  The labels show it even if the tab has been closed. -/
def showReport (tab : Text) (report : Report) : EditorM Unit := do
  let e ← get
  let page := e.page? tab
  unmark page
  let badge (valid : Bool) : Badge := ⟨valid, e.settings.theme⟩
  match Overlay.ofReport? report with
  | none =>
    setLabel .validity fun s => { s with validity := some (badge true) }
    setLabel .location fun s => { s with location := [] }
    setLabel .message fun s => { s with message := [] }
    setLabel .suggestion fun s => { s with suggestion := .str [] }
  | some o =>
    setLabel .validity fun s => { s with validity := some (badge false) }
    setLabel .location fun s => { s with location := o.location }
    setLabel .message fun s => { s with message := o.message }
    setLabel .suggestion fun s => { s with suggestion := o.suggestion }
    match page with
    | some p => markLine p o.line
    | none => return

/-- Appends an entry for an invalid content to the log, but not twice in a row for the same. -/
def logReport (content : Text) (report : Report) : EditorM Unit := do
  let e ← get
  if !report.valid ∧ e.lastLogged ≠ some content then
    set { e with lastLogged := some content }
    let _ ← onDisk (Disk.logInvalid e.setup.now (e.filePath Editor.logFile) Log.liveAction content
      report (.ofNat Disk.logLimits.1) (.ofNat Disk.logLimits.2))

def applyVerdict (run : Nat) (tab content : Text) (payload : Json) : EditorM Unit := do
  if run = (← get).run then
    let report ← MonadExcept.ofExcept (Report.ofJson payload)
    showReport tab report
    logReport content report

def applyStats (run : Nat) (payload : Json) : EditorM Unit := do
  if run = (← get).run then
    let stats ← MonadExcept.ofExcept (Stats.ofJson payload.orRecord)
    setLabel .stats fun s => { s with stats := stats.text }

def feedback : EditorM Unit := do
  let e ← get
  let tab := e.session.activeTab.id
  let content := e.tabText tab
  let run := e.run + 1
  set { e with run := run }
  ask .validate (.str content) (.verdict run tab content) (applyVerdict run tab content)
  ask .stats (.str content) (.stats run) (applyStats run)

end JsonDesk.EditorM
