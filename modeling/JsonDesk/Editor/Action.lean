import JsonDesk.Editor.Loop

/-!
What a user does, and what else comes from outside.  An action that needs a page, a window or a
message which is not there is no action.
-/

set_option autoImplicit false

namespace JsonDesk

inductive Frame
  | main | compare
deriving DecidableEq

inductive Button
  | openFile | save | copy | reshape (op : Operation) | compare | newTab | closeTab | theme
  | close | swap | formatSide (side : Side)
deriving DecidableEq

namespace Button

def all : Frame → List Button
  | .main =>
    [openFile, save, copy, reshape .format, reshape .minify, reshape .sortKeys, compare, newTab,
      closeTab, theme]
  | .compare => [close, swap, formatSide .left, formatSide .right]

def caption (shown : Theme) : Button → Text
  | openFile => "Open"
  | save => "Save"
  | copy => "Copy"
  | reshape .minify => "Minify"
  | reshape .sortKeys => "Sort Keys"
  | reshape _ => "Format"
  | compare => "Compare"
  | newTab => "New Tab"
  | closeTab => "Close Tab"
  | theme => shown.other.title ++ " Theme"
  | close => "Close"
  | swap => "Swap"
  | formatSide _ => "Format"

end Button

/-- How a text is edited: all of it is replaced, or something is put at its end. -/
inductive Edit
  | replace (text : Text)
  | append (text : Text)
deriving DecidableEq

/-- Pages are meant by their position in the row of tabs, messages by the order in which they were
sent. -/
inductive Action
  | wait (milliseconds : Int)
  | press (button : Button)
  | edit (page : Nat) (edit : Edit)
  | editSide (side : Side) (edit : Edit)
  | show (page : Nat)
  | doubleClick (x : Int) (answer : Text)
  | openFile (path : Text)
  | saveFile (path : Text)
  | newTab (name content : Text)
  | chooseIndent (choice : Text)
  | close (frame : Frame)
  | destroy (frame : Frame)
  /-- A response comes from a remote engine. -/
  | respond (response : Json)
  | refuse (commands : List Command)

namespace EditorM

def useEdit (n : BoxName) : Edit → EditorM Unit
  | .replace t => replaceText n t
  | .append t => changeBox n (TextBox.append t)

def withCompare (f : Nat → EditorM Unit) : EditorM Unit := do
  match (← get).comparing with
  | some w => f w
  | none => return

def withPage (i : Nat) (f : Page → EditorM Unit) : EditorM Unit := do
  match (← get).pages[i]? with
  | some p => f p
  | none => return

def press : Button → EditorM Unit
  | .openFile => openFile
  | .save => saveFile
  | .copy => copy
  | .reshape op => reshapeActive op
  | .compare => openCompare
  | .newTab => do let _ ← newTab [] []
  | .closeTab => closeTab
  | .theme => toggleTheme
  | .close => withCompare closeWindow
  | .swap => withCompare swapSides
  | .formatSide s => withCompare fun w => formatSide w s

end EditorM

namespace Editor

def buttons (e : Editor) : Frame → List Button
  | .main => Button.all .main
  | .compare =>
    match e.comparing.bind fun w => e.windows[w]? with
    | some w => if w.alive then Button.all .compare else []
    | none => []

def preset (e : Editor) (d : Dialog) (answer : Text) : Editor :=
  { e with answers := (d, answer) :: e.answers.filter fun a => a.1 != d }

def act (e : Editor) : Action → Editor
  | .wait t => e.wait t
  | .press b => (EditorM.call (EditorM.press b) e).2
  | .edit i edit =>
    (EditorM.call (EditorM.withPage i fun p => EditorM.useEdit (.page p.number) edit) e).2
  | .editSide s edit =>
    (EditorM.call (EditorM.withCompare fun w => EditorM.useEdit (.side w s) edit) e).2
  | .show i => (EditorM.call (EditorM.withPage i fun p => EditorM.showPage p.number) e).2
  | .doubleClick x answer => (EditorM.call (EditorM.renameTabAt x) (e.preset .tabName answer)).2
  | .openFile path => (EditorM.call EditorM.openFile (e.preset .openPath path)).2
  | .saveFile path => (EditorM.call EditorM.saveFile (e.preset .savePath path)).2
  | .newTab name content => (EditorM.call (EditorM.newTab name content) e).2
  | .chooseIndent choice => (EditorM.call (EditorM.chooseIndent choice) e).2
  | .close .main => (EditorM.call EditorM.closeEditor e).2
  | .close .compare => (EditorM.call (EditorM.withCompare EditorM.closeWindow) e).2
  | .destroy .main => (EditorM.call EditorM.destroyScreen e).2
  | .destroy .compare => (EditorM.call (EditorM.withCompare EditorM.destroyWindow) e).2
  | .respond response => (EditorM.call (EditorM.accept Reply.handle response) e).2
  | .refuse commands => { e with refused := commands }

/-- Whether there is what an action needs.  A closed editor takes responses, and time passes. -/
def allows (e : Editor) : Action → Bool
  | .wait _ | .respond _ | .refuse _ => true
  | .press b => e.isOpen && ((e.buttons .main).elem b || (e.buttons .compare).elem b)
  | .edit i _ | .show i => e.isOpen && decide (i < e.pages.length)
  | .editSide _ _ | .close .compare | .destroy .compare => e.isOpen && e.comparing.isSome
  | _ => e.isOpen

def step? (e : Editor) (a : Action) : Option Editor := if e.allows a then some (e.act a) else none

end Editor

end JsonDesk
