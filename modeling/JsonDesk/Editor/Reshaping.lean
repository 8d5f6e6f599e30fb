import JsonDesk.Editor.Step
import JsonDesk.Text.Blank

/-!
Formatting, minifying and sorting the active document.  When a reshaped document is the same as
before, the reason may be that it is invalid, so that is asked for next.
-/

set_option autoImplicit false

namespace JsonDesk.EditorM

def warnIfInvalid (payload : Json) : EditorM Unit := do
  let report ← MonadExcept.ofExcept (Report.ofJson payload.orRecord)
  if !report.valid then
    setLabel .suggestion fun s => { s with suggestion := .str "Fix the JSON errors first." }

def applyReshape (tab content : Text) (payload : Json) : EditorM Unit := do
  match payload, (← get).page? tab with
  | .str reshaped, some p =>
    if reshaped = content then
      if !content.isBlank then ask .validate (.str content) .warning warnIfInvalid
    else replaceText (.page p.number) reshaped
  | _, _ => return

def reshapeActive (op : Operation) : EditorM Unit := do
  let e ← get
  let tab := e.session.activeTab.id
  let content := e.tabText tab
  let indent : Json := if op = .minify then .null else .int e.settings.indentWidth
  ask op (Client.reshapePayload (.str content) indent) (.reshape tab content)
    (applyReshape tab content)

end JsonDesk.EditorM
