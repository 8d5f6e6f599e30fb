import JsonDesk.Client
import JsonDesk.Debounce
import JsonDesk.Disk.LogFile
import JsonDesk.Disk.Store

/-!
The editor: the open documents, the pages and windows that show them, the requests that are on
their way, and the screen with its clock.  Everything that happens to it is a step from one state
to the next; a step that fails keeps what was done up to the failure.
-/

set_option autoImplicit false

namespace JsonDesk

inductive Side
  | left | right
deriving DecidableEq

/-- The text boxes.  Pages are numbered from one, and compare windows from zero, in the order in
which they were made. -/
inductive BoxName
  | page (number : Nat)
  | side (window : Nat) (side : Side)
deriving DecidableEq

/-- The last part of a widget's path: the second of a kind is the first with a number. -/
def numbered (kind : Text) (n : Nat) : Text := if n = 1 then kind else kind ++ Text.ofNat n

def pagePath (number : Nat) : Text := ".!notebook.!" ++ numbered "frame" number

def windowPath (window : Nat) : Text := ".!" ++ numbered "toplevel" (window + 1)

def Side.number : Side → Nat
  | left => 1
  | right => 2

def sidePath (window : Nat) (s : Side) : Text :=
  windowPath window ++ ".!panedwindow.!panedwindow.!" ++ numbered "frame" s.number

def BoxName.path : BoxName → Text
  | page n => pagePath n ++ ".!text"
  | side w s => sidePath w s ++ ".!text"

inductive Label
  | validity | location | message | stats | suggestion
deriving DecidableEq

def Label.path : Label → Text
  | validity => ".!frame2.!label"
  | location => ".!frame2.!label2"
  | message => ".!frame2.!label3"
  | stats => ".!frame2.!label4"
  | suggestion => ".!label"

inductive Part
  | verdict (side : Side)
  | differences
deriving DecidableEq

inductive Reply
  /-- Shows the verdict on the content of a tab, for a run of live feedback. -/
  | verdict (run : Nat) (tab content : Text)
  | stats (run : Nat)
  | reshape (tab content : Text)
  | warning
  | part (window run : Nat) (part : Part)
  | reshapeSide (window : Nat) (side : Side) (content : Text)
deriving DecidableEq

inductive Job
  | feedback
  | comparison (window : Nat)
  | reply (reply : Reply) (payload : Json)

/-- What widgets tell: their text was changed, or another page is shown. -/
inductive Signal
  | edited (box : BoxName)
  | pageShown
deriving DecidableEq

structure Page where
  number : Nat
  tab : Text
  title : Text
  box : TextBox
  /-- The theme in whose colours it was last painted. -/
  theme : Theme
deriving DecidableEq

/-- A verdict as a label shows it, in the colours of the theme of that time. -/
structure Badge where
  valid : Bool
  theme : Theme
deriving DecidableEq

def Badge.colour (b : Badge) : Text :=
  if b.valid then b.theme.palette.valid else b.theme.palette.invalid

structure StatusArea where
  validity : Option Badge
  location : Text
  message : Text
  suggestion : Json
  stats : Text

def StatusArea.blank : StatusArea := ⟨none, [], [], .str [], []⟩

structure Gathered where
  /-- One of the sides was blank, so there is nothing to list. -/
  blank : Bool
  left : Option Json
  right : Option Json
  differences : Option Json

namespace Gathered

def start (blank : Bool) : Gathered := ⟨blank, none, none, if blank then some (.arr []) else none⟩

def put (g : Gathered) (p : Part) (v : Json) : Gathered :=
  match p with
  | .verdict .left => { g with left := some v }
  | .verdict .right => { g with right := some v }
  | .differences => { g with differences := some v }

end Gathered

/-- A row in the list of differences: its text and the type that colours it. -/
structure Row where
  text : Text
  type : Text
deriving DecidableEq

structure SideView where
  box : TextBox
  badge : Option Badge
deriving DecidableEq

structure CompareWindow where
  alive : Bool
  left : SideView
  right : SideView
  summary : Text
  rows : List Row
  run : Nat
  gathered : Gathered
  timer : Option Nat
  theme : Theme

namespace CompareWindow

def view (w : CompareWindow) : Side → SideView
  | .left => w.left
  | .right => w.right

def setView (w : CompareWindow) (s : Side) (v : SideView) : CompareWindow :=
  match s with
  | .left => { w with left := v }
  | .right => { w with right := v }

def blank (theme : Theme) : CompareWindow :=
  ⟨true, ⟨.blank, none⟩, ⟨.blank, none⟩, [], [], 0, .start false, none, theme⟩

end CompareWindow

inductive Dialog
  | openPath | savePath | tabName
deriving DecidableEq

inductive Notice
  | askedOpenPath
  | askedSavePath (suggested : Text)
  | askedTabName (current : Text)
  | showedError (title message : Text)
  | scrolled (box : BoxName) (line : Int)
  | lifted (window : Nat)
  /-- Something that had been started by the user, a timer or a signal failed. -/
  | failed (failure : Failure)
  | listed (window : Nat) (rows : List Row)

inductive Engine
  /-- A worker, whose results come back by way of a timer. -/
  | background
  /-- The client itself, at once. -/
  | inline
  /-- Someone else, who answers the messages when it suits. -/
  | remote
deriving DecidableEq

structure Setup where
  engine : Engine
  /-- The directory for settings, session and log. -/
  directory : Text
  now : Stamp
  /-- A supply of identifiers. -/
  freshId : Nat → Text

structure Editor where
  setup : Setup
  disk : Disk
  idsTaken : Nat
  isOpen : Bool
  refused : List Command
  /-- The theme of the window system was accepted. -/
  styled : Bool
  now : Int
  timers : List (Timer Job)
  timersStarted : Nat
  signals : List Signal
  clipboard : Option Text
  /-- What the next dialog of a kind will answer. -/
  answers : List (Dialog × Text)
  notices : List Notice
  settings : Settings
  session : Session
  /-- The text of the box in which the indent is chosen. -/
  indentChoice : Text
  pages : List Page
  /-- Pages that were taken out but could not be destroyed. -/
  strayPages : List Page
  pagesMade : Nat
  shown : Option Nat
  status : StatusArea
  client : Client Reply
  /-- The messages that a remote engine was sent. -/
  posted : List Json
  run : Nat
  feedbackTimer : Option Nat
  lastLogged : Option Text
  windows : List CompareWindow
  comparing : Option Nat

namespace Editor

def settingsFile : Text := "jsonsmith_settings.json"

def sessionFile : Text := "jsonsmith_session.json"

def logFile : Text := "jsonsmith_diagnostics.log"

def filePath (e : Editor) (name : Text) : Text := Path.join e.setup.directory name

def palette (e : Editor) : Palette := e.settings.theme.palette

def page? (e : Editor) (tab : Text) : Option Page := e.pages.find? fun p => p.tab = tab

def shownPage? (e : Editor) : Option Page :=
  e.shown.bind fun n => e.pages.find? fun p => p.number = n

def tabText (e : Editor) (tab : Text) : Text :=
  match e.page? tab with
  | some p => p.box.content
  | none => []

def activeText (e : Editor) : Text := e.tabText e.session.activeId

def modifyPage (e : Editor) (n : Nat) (f : Page → Page) : Editor :=
  { e with pages := e.pages.map fun p => if p.number = n then f p else p }

def modifyWindow (e : Editor) (w : Nat) (f : CompareWindow → CompareWindow) : Editor :=
  { e with windows := e.windows.modify w f }

def box? (e : Editor) (n : BoxName) : Option TextBox :=
  if e.isOpen then
    match n with
    | .page k => (e.pages.find? fun p => p.number = k).map (·.box)
    | .side w s => (e.windows[w]?.filter (·.alive)).map fun w => (w.view s).box
  else none

def setBox (e : Editor) (n : BoxName) (b : TextBox) : Editor :=
  match n with
  | .page k => e.modifyPage k fun p => { p with box := b }
  | .side w s => e.modifyWindow w fun w => w.setView s { w.view s with box := b }

def notice (e : Editor) (n : Notice) : Editor := { e with notices := e.notices ++ [n] }

end Editor

end JsonDesk
