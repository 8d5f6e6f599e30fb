import JsonDesk.Editor.Step

/-!
The compare window.  Some time after an edit both sides are validated and, unless one of them is
blank, compared.  The results come one by one; each side shows its verdict as soon as it is there,
and the differences are listed when nothing is missing.  Comparisons are numbered, and a result of
any comparison but the newest is dropped.
-/

set_option autoImplicit false

namespace JsonDesk.EditorM

/-- Works on a compare window; one that never was is left alone. -/
def withWindow (w : Nat) (f : CompareWindow → EditorM Unit) : EditorM Unit := do
  match (← get).windows[w]? with
  | some window => f window
  | none => return

/-- Whether a window is there, as far as the screen tells. -/
def isAlive (w : Nat) : EditorM Bool :=
  tryCatch
    (do
      attempt .checkWindow
      return match (← get).windows[w]? with
        | some window => window.alive
        | none => false)
    fun _ => return false

def paintWindow (w : Nat) : EditorM Unit := do
  let _ ← useBox (.side w .left)
  modify fun e => e.modifyWindow w fun window => { window with theme := e.settings.theme }

def showDifferences (w : Nat) (payload : Json) (summarize : Bool) : EditorM Unit := do
  let items ← if payload.truthy then MonadExcept.ofExcept payload.iterate else pure []
  let notes ← MonadExcept.ofExcept (items.mapM DifferenceNote.ofJson)
  let rows : List Row := notes.map fun n => ⟨n.row ++ "\n", n.type⟩
  let summary : Text := if summarize then DifferenceNote.summary notes.length else []
  modify fun e => e.modifyWindow w fun window => { window with summary := summary, rows := rows }
  notice (.listed w rows)

/-- Whether both sides are valid; the right one is looked at only if the left one is. -/
def bothValid (left right : Json) : Except Failure Bool := do
  if (← Report.ofJson left.orRecord).valid then return (← Report.ofJson right.orRecord).valid
  else return false

def applyPart (w run : Nat) (part : Part) (payload : Json) : EditorM Unit := do
  let newest := ((← get).windows[w]?.map (·.run)) = some run
  if newest then
    if ← isAlive w then
      modify fun e =>
        e.modifyWindow w fun window => { window with gathered := window.gathered.put part payload }
      match part with
      | .verdict s =>
        let report ← MonadExcept.ofExcept (Report.ofJson payload.orRecord)
        modify fun e => e.modifyWindow w fun window =>
          window.setView s { window.view s with badge := some ⟨report.valid, e.settings.theme⟩ }
      | .differences => pure ()
      withWindow w fun window => do
        match window.gathered with
        | ⟨blank, some left, some right, some differences⟩ =>
          let valid ← MonadExcept.ofExcept (bothValid left right)
          showDifferences w differences (valid && !blank)
        | _ => return

def comparison (w : Nat) : EditorM Unit := do
  let left := (← useBox (.side w .left)).content
  let right := (← useBox (.side w .right)).content
  withWindow w fun window => do
    let run := window.run + 1
    let blank := left.isBlank || right.isBlank
    modify fun e => e.modifyWindow w fun window =>
      { window with run := run, gathered := .start blank }
    let request (op : Operation) (payload : Json) (part : Part) : EditorM Unit :=
      ask op payload (.part w run part) (applyPart w run part)
    request .validate (.str left) (.verdict .left)
    request .validate (.str right) (.verdict .right)
    if !blank then
      request .compare (.obj [("left", .str left), ("right", .str right)]) .differences

def swapSides (w : Nat) : EditorM Unit := do
  let left := (← useBox (.side w .left)).content
  let right := (← useBox (.side w .right)).content
  replaceText (.side w .left) right
  replaceText (.side w .right) left

/-- Puts a reshaped content into its side, provided that the side still has the content it was
made from. -/
def applySide (w : Nat) (s : Side) (content : Text) (payload : Json) : EditorM Unit := do
  match payload with
  | .str reshaped =>
    if reshaped ≠ content then
      if (← useBox (.side w s)).content = content then replaceText (.side w s) reshaped
  | _ => return

def formatSide (w : Nat) (s : Side) : EditorM Unit := do
  let content := (← useBox (.side w s)).content
  let indent := (← get).settings.indentWidth
  ask .format (Client.reshapePayload (.str content) (.int indent)) (.reshapeSide w s content)
    (applySide w s content)

/-- Makes a window with a text on its left side.  Its comparison is scheduled at once; if that
fails the window is there, but it is not in use. -/
def makeWindow (text : Text) : EditorM Unit := do
  let e ← get
  let w := e.windows.length
  set { e with windows := e.windows ++ [CompareWindow.blank e.settings.theme] }
  if text ≠ [] then
    changeBox (.side w .left) (TextBox.append text)
    changeBox (.side w .left) TextBox.acknowledge
  scheduleComparison w
  modify fun e => { e with comparing := some w }

def liftWindow (w : Nat) : EditorM Unit := do
  attempt .lift
  let _ ← useBox (.side w .left)
  notice (.lifted w)

/-- Brings the compare window to the front, or makes one if there is none that can be. -/
def openCompare : EditorM Unit := do
  let lifted ← match (← get).comparing with
    | some w =>
      tryCatch
        (do
          liftWindow w
          return true)
        fun _ => do
          modify fun e => { e with comparing := none }
          return false
    | none => pure false
  if !lifted then makeWindow (← get).activeText

/-- Takes a window from the screen, and with it the timers that belong to it. -/
def destroyWindow (w : Nat) : EditorM Unit := do
  attempt .destroy
  modify fun e =>
    { e.modifyWindow w fun window => { window with alive := false } with
      timers := e.timers.filter fun t => t.owner != some w }

/-- Closes a window; one that cannot be destroyed is not in use any more. -/
def closeWindow (w : Nat) : EditorM Unit := do
  Debounce.cancel (comparisonHost w)
  modify fun e => { e with comparing := none }
  tryCatch (destroyWindow w) fun _ => return ()

end JsonDesk.EditorM
