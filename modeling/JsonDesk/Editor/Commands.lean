import JsonDesk.Document
import JsonDesk.Editor.Reshaping
import JsonDesk.Editor.Tabs

set_option autoImplicit false

namespace JsonDesk.EditorM

/-- Opens a document in a new tab; one that cannot be read is told about. -/
def openPath (path : Text) : EditorM Unit := do
  match (← get).disk.loadText path with
  | .ok content =>
    let _ ← newTab (Path.stem (Path.base path)) content
  | .error (.document failure _) => notice (.showedError "Open failed" failure.message)
  | .error f => throw f

def openFile : EditorM Unit := do
  notice .askedOpenPath
  let path := (← takeAnswer .openPath).getD []
  if path ≠ [] then openPath path

def saveFile : EditorM Unit := do
  let tab := (← get).session.activeTab
  notice (.askedSavePath (Text.downloadName tab.name))
  let path := (← takeAnswer .savePath).getD []
  if path ≠ [] then
    let payload := Text.savePayload ((← get).tabText tab.id)
    tryCatch (onDisk (Disk.saveText none path payload documentEncoding)) fun
      | .document failure _ => notice (.showedError "Save failed" failure.message)
      | f => throw f

/-- Copies the active document; a screen without a clipboard is put up with. -/
def copy : EditorM Unit :=
  tryCatch
    (do
      attempt .clearClipboard
      modify fun e => { e with clipboard := some [] }
      attempt .appendClipboard
      modify fun e => { e with clipboard := some (e.clipboard.getD [] ++ e.activeText) })
    fun _ => return ()

/-- Takes an indent over from the box in which it is chosen, if it is a number. -/
def chooseIndent (choice : Text) : EditorM Unit := do
  modify fun e => { e with indentChoice := choice }
  match choice.toInt with
  | .ok width =>
    modify fun e => { e with settings := { e.settings with indentWidth := width } }
    saveSettings
  | .error _ => return

def toggleTheme : EditorM Unit := do
  modify fun e => { e with settings := { e.settings with theme := e.settings.theme.other } }
  applyTheme
  saveSettings
  Debounce.flush feedbackHost (fun _ => feedback) ()

def destroyScreen : EditorM Unit := do
  attempt .destroy
  modify fun e =>
    { e with
      isOpen := false, timers := [],
      windows := e.windows.map fun w => { w with alive := false } }

/-- Closes the editor, and forgets all requests whether or not everything could be saved. -/
def closeEditor : EditorM Unit := do
  Debounce.cancel feedbackHost
  tryFinally
    (do
      saveSession
      saveSettings)
    (do
      modify fun e => { e with client := e.client.close }
      destroyScreen)

end JsonDesk.EditorM
