import JsonDesk.Editor.Commands

/-!
The loop of the editor.  Signals are dealt with before timers, in the order in which they came;
timers go off in the order of their times, and the clock goes with them.  Whatever a signal or a
timer starts may fail without an effect on the loop.
-/

set_option autoImplicit false

namespace JsonDesk

def Reply.handle : Reply → Json → EditorM Unit
  | .verdict run tab content => EditorM.applyVerdict run tab content
  | .stats run => EditorM.applyStats run
  | .reshape tab content => EditorM.applyReshape tab content
  | .warning => EditorM.warnIfInvalid
  | .part w run p => EditorM.applyPart w run p
  | .reshapeSide w s content => EditorM.applySide w s content

/-- A signal from a widget that is gone means nothing. -/
def Signal.handle : Signal → EditorM Unit
  | .edited (.page n) => EditorM.pageEdited n
  | .edited (.side w s) => do
    if ((← get).box? (.side w s)).isSome then EditorM.sideEdited w s
  | .pageShown => EditorM.pageShown

def Job.run : Job → EditorM Unit
  | .feedback => Debounce.fire EditorM.feedbackHost (fun _ => EditorM.feedback) ()
  | .comparison w => Debounce.fire (EditorM.comparisonHost w) (fun _ => EditorM.comparison w) ()
  | .reply r payload => r.handle payload

namespace Editor

/-- The timer that goes off next, if that is not after a time. -/
def dueTimer? (e : Editor) (stop : Int) : Option (Timer Job) :=
  (Timer.earliest? e.timers).filter fun t => t.due ≤ stop

/-- One turn of the loop up to a time, and nothing if there is nothing left to do until then. -/
def turn? (stop : Int) (e : Editor) : Option Editor :=
  match e.signals with
  | s :: rest =>
    let e := { e with signals := rest }
    some (if e.isOpen then (EditorM.call s.handle e).2 else e)
  | [] =>
    (e.dueTimer? stop).map fun t =>
      (EditorM.call t.job.run
        { e with
          timers := e.timers.filter fun u => u.id != t.id, now := max e.now t.due }).2

/-- More turns than the loop can take.  A signal or a timer leads to less than eight turns, and so
does a text that has been changed: a reshaped text is changed, which is one signal and at most
another one to come, a timer, and the replies to three requests, which lead to nothing more. -/
def turnLimit (e : Editor) : Nat :=
  8 * (e.signals.length + e.timers.length + e.pages.length + 2 * e.windows.length)

def turns (stop : Int) : (left : Nat) → Editor → Editor
  | 0, e => e
  | left + 1, e =>
    match e.turn? stop with
    | some e => turns stop left e
    | none => e

def wait (milliseconds : Int) (e : Editor) : Editor :=
  let stop := e.now + milliseconds
  { turns stop e.turnLimit e with now := stop }

end Editor

end JsonDesk
