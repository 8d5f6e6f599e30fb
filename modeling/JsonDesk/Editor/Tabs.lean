import JsonDesk.Editor.Comparison
import JsonDesk.Editor.Feedback

set_option autoImplicit false

namespace JsonDesk.EditorM

def saveSession : EditorM Unit := do
  modify fun e =>
    { e with session := e.pages.foldl (fun s p => s.update p.tab p.box.content) e.session }
  let e ← get
  let _ ← onDisk (Disk.saveSession (e.filePath Editor.sessionFile) e.session)

def saveSettings : EditorM Unit := do
  let e ← get
  let _ ← onDisk (Disk.saveSettings (e.filePath Editor.settingsFile) e.settings)

def applyTheme : EditorM Unit := do
  modify fun e =>
    { e with pages := e.pages.map fun p => { p with theme := e.settings.theme } }
  match (← get).comparing with
  | some w => paintWindow w
  | none => return

def showPage (n : Nat) : EditorM Unit := do
  if (← get).shown ≠ some n then
    modify fun e => { e with shown := some n }
    signal .pageShown

def selectTab (tab : Text) : EditorM Unit := do
  match (← get).page? tab with
  | some p => showPage p.number
  | none => return

/-- Makes a page for a tab, at the end.  The first page is shown at once. -/
def addPage (t : Tab) : EditorM Unit := do
  let e ← get
  let n := e.pagesMade + 1
  if t.content ≠ [] then
    signal (.edited (.page n))
    signal (.edited (.page n))
  modify fun e =>
    { e with
      pages := e.pages ++ [⟨n, t.id, t.name, TextBox.blank.append t.content |>.acknowledge,
        e.settings.theme⟩],
      pagesMade := n }
  if e.pages.isEmpty then showPage n
  applyTheme

/-- Makes the pages of a restored session and shows the one that was active. -/
def restoreTabs : EditorM Unit := do
  let session := (← get).session
  session.tabs.forM addPage
  modify fun e => { e with session := e.session.activate session.activeId }
  selectTab session.activeId

def newTab (name content : Text) : EditorM Tab := do
  let id ← freshId
  modify fun e => { e with session := e.session.add id name content }
  let t := (← get).session.activeTab
  addPage t
  selectTab id
  saveSession
  return ((← get).session.find? id).getD t

/-- Takes a page out.  If it was shown, the page that takes its place is shown, or else the last. -/
def removePage (p : Page) : EditorM Unit := do
  let e ← get
  let rest := e.pages.filter fun q => q.number != p.number
  set { e with pages := rest, strayPages := e.strayPages ++ [p] }
  if e.shown = some p.number then
    let i := e.pages.findIdx fun q => q.number = p.number
    modify fun e => { e with shown := (rest[i]?.or rest.getLast?).map (·.number) }
    signal .pageShown
  attempt .destroy
  modify fun e => { e with strayPages := e.strayPages.filter fun q => q.number != p.number }

/-- Closes the active tab.  The only tab is emptied instead. -/
def closeTab : EditorM Unit := do
  let e ← get
  let closing := e.session.activeTab.id
  modify fun e => { e with session := e.session.close closing }
  match e.page? closing with
  | none => pure ()
  | some p =>
    if e.session.others.isEmpty then
      replaceText (.page p.number) []
      modify fun e => e.modifyPage p.number fun p => { p with title := untitled }
    else
      removePage p
      selectTab (← get).session.activeTab.id
  saveSession
  scheduleFeedback

/-- Makes the tab of the shown page the active one, and looks at it at once. -/
def pageShown : EditorM Unit := do
  match (← get).shownPage? with
  | some p =>
    modify fun e => { e with session := e.session.activate p.tab }
    Debounce.flush feedbackHost (fun _ => feedback) ()
  | none => return

def pageEdited (n : Nat) : EditorM Unit := do
  match (← get).pages.find? fun p => p.number = n with
  | none => return
  | some p =>
    if p.box.changed then
      changeBox (.page n) TextBox.acknowledge
      modify fun e => { e with session := e.session.update p.tab p.box.content }
      if p.tab = (← get).session.activeId then scheduleFeedback

def sideEdited (w : Nat) (s : Side) : EditorM Unit := do
  if (← useBox (.side w s)).changed then
    changeBox (.side w s) TextBox.acknowledge
    scheduleComparison w

def takeAnswer (d : Dialog) : EditorM (Option Text) := do
  let e ← get
  set { e with answers := e.answers.filter fun a => a.1 != d }
  return e.answers.lookup d

def tabWidth : Int := 100

def renameTabAt (x : Int) : EditorM Unit := do
  let e ← get
  let i := x.fdiv tabWidth
  match if 0 ≤ i then e.pages[i.toNat]? else none with
  | none => return
  | some p =>
    match e.session.find? p.tab with
    | none => return
    | some t =>
      notice (.askedTabName t.name)
      let name := (← takeAnswer .tabName).getD []
      if name ≠ [] then
        match e.session.rename t.id name with
        | none => return
        | some session =>
          modify fun e =>
            { e.modifyPage p.number fun p => { p with title := name.strip } with
              session := session }
          saveSession

end JsonDesk.EditorM
