import JsonDesk.CommandLine
import JsonDesk.Editor.Action
import JsonDesk.Logger

set_option autoImplicit false

namespace JsonDesk

namespace Editor

def bare (setup : Setup) (disk : Disk) (refused : List Command) (idsTaken : Nat)
    (settings : Settings) (session : Session) : Editor where
  setup := setup
  disk := disk
  idsTaken := idsTaken
  isOpen := true
  refused := refused
  styled := !refused.elem .useTheme
  now := 0
  timers := []
  timersStarted := 0
  signals := []
  clipboard := none
  answers := []
  notices := []
  settings := settings
  session := session
  indentChoice := Text.ofInt settings.indentWidth
  pages := []
  strayPages := []
  pagesMade := 0
  shown := none
  status := .blank
  client := .empty
  posted := []
  run := 0
  feedbackTimer := none
  lastLogged := none
  windows := []
  comparing := none

/-- Starts an editor, with a document if a path is given. -/
def start (setup : Setup) (disk : Disk) (refused : List Command) (path : Text) :
    Except Failure Editor := do
  let settings ← disk.loadSettings (Path.join setup.directory settingsFile)
  let session ← disk.loadSession setup.freshId (Path.join setup.directory sessionFile)
  let e := bare setup disk refused (session.tabs.length + 1) settings session
  let opening : EditorM Unit := do
    EditorM.restoreTabs
    if path ≠ [] then EditorM.openPath path
    EditorM.scheduleFeedback
  match opening.run.run e with
  | (.ok _, e) => .ok e
  | (.error f, _) => .error f

def geometry : Text := "1100x760"

end Editor

/-- What the command line asks for: more to be logged, and a document. -/
structure Editor.Options where
  verbose : Bool
  path : Text

namespace Editor.Options

def flags : List CommandLine.Flag := [⟨"--debug", .switch⟩]

def parse (arguments : List Text) : CommandLine.Outcome Options :=
  CommandLine.parse (fun o _ _ => some { o with verbose := true })
    (fun o path => { o with path := path }) flags .free ⟨false, []⟩ arguments

def logLevel (o : Options) : LogLevel := if o.verbose then LogLevel.debug else LogLevel.info

end Editor.Options

end JsonDesk
