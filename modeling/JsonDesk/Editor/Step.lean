import JsonDesk.Editor

/-!
The steps that everything else is made of: commands to the screen, timers, text boxes, labels, and
requests.  Each may fail, and keeps what was done before it failed.
-/

set_option autoImplicit false

namespace JsonDesk

abbrev EditorM := ExceptT Failure (StateM Editor)

namespace EditorM

def attempt (c : Command) : EditorM Unit := do
  let e ← get
  if !e.isOpen then throw (.screen (.closed c))
  else if e.refused.elem c then throw (.screen (.refused c))

def notice (n : Notice) : EditorM Unit := modify fun e => e.notice n

def signal (s : Signal) : EditorM Unit := modify fun e => { e with signals := e.signals ++ [s] }

def freshId : EditorM Text := do
  let e ← get
  set { e with idsTaken := e.idsTaken + 1 }
  return e.setup.freshId e.idsTaken

def onDisk {α : Type} (m : DiskM α) : EditorM α := do
  let (result, disk) := m.run.run (← get).disk
  modify fun e => { e with disk := disk }
  MonadExcept.ofExcept result

/-- Runs something that the window system started: a failure is noticed, and that is all. -/
def call {α : Type} (m : EditorM α) (e : Editor) : Option α × Editor :=
  match m.run.run e with
  | (.ok a, e) => (some a, e)
  | (.error f, e) => (none, e.notice (.failed f))

/-! Timers -/

def startTimer (owner : Option Nat) (delay : Int) (job : Job) : EditorM Nat := do
  attempt .startTimer
  let e ← get
  let id := e.timersStarted + 1
  set { e with
    timersStarted := id, timers := e.timers ++ [(⟨id, e.now + delay, owner, job⟩ : Timer Job)] }
  return id

def stopTimer (id : Nat) : EditorM Unit := do
  attempt .stopTimer
  modify fun e => { e with timers := e.timers.filter fun t => t.id != id }

def feedbackHost : Debounce.Host EditorM Int Unit where
  start delay _ := startTimer none delay .feedback
  stop := stopTimer
  pending := do return (← get).feedbackTimer
  setPending t := modify fun e => { e with feedbackTimer := t }

def comparisonHost (w : Nat) : Debounce.Host EditorM Int Unit where
  start delay _ := startTimer (some w) delay (.comparison w)
  stop := stopTimer
  pending := do return (← get).windows[w]?.bind (·.timer)
  setPending t := modify fun e => e.modifyWindow w fun w => { w with timer := t }

def scheduleFeedback : EditorM Unit := do
  Debounce.schedule feedbackHost (← get).settings.feedbackDelay ()

def scheduleComparison (w : Nat) : EditorM Unit := do
  Debounce.schedule (comparisonHost w) (← get).settings.feedbackDelay ()

/-! Text boxes -/

def useBox (n : BoxName) : EditorM TextBox := do
  match (← get).box? n with
  | some b => return b
  | none => throw (.screen (.gone n.path))

/-- Changes a text box.  The box tells when it becomes changed and when it ceases to be. -/
def changeBox (n : BoxName) (f : TextBox → TextBox) : EditorM Unit := do
  let b ← useBox n
  modify fun e => e.setBox n (f b)
  if (f b).changed ≠ b.changed then signal (.edited n)

def replaceText (n : BoxName) (t : Text) : EditorM Unit := do
  changeBox n TextBox.clear
  changeBox n (TextBox.append t)

def setLabel (l : Label) (f : StatusArea → StatusArea) : EditorM Unit := do
  let e ← get
  if e.isOpen then set { e with status := f e.status }
  else throw (.screen (.gone l.path))

/-! Requests -/

def accept (handle : Reply → Json → EditorM Unit) (response : Json) : EditorM Unit := do
  let e ← get
  let (client, delivery) ← MonadExcept.ofExcept
    (e.client.receive (fun message => (respond message).toJson) response)
  set { e with client := client }
  match delivery with
  | some (.result reply payload) => handle reply payload
  | _ => return

/-- Puts a result into the queue of timers; a screen that has none left loses it. -/
def postpone (reply : Reply) (payload : Json) : EditorM Unit :=
  tryCatch
    (do let _ ← startTimer none 0 (.reply reply payload))
    fun _ => return ()

/-- Sends a request.  An inline engine has its result handled before anything else happens. -/
def ask (op : Operation) (payload : Json) (reply : Reply) (handle : Json → EditorM Unit) :
    EditorM Unit := do
  let id ← freshId
  let message := Client.message (.str op.name) payload id
  modify fun e => { e with client := e.client.enter ⟨id, message, reply, none⟩ }
  match (← get).setup.engine with
  | .remote => modify fun e => { e with posted := e.posted ++ [message] }
  | .background => accept postpone (respond message).toJson
  | .inline => accept (fun _ payload => handle payload) (respond message).toJson

end EditorM

/-- A record that may be missing. -/
def Json.orRecord (v : Json) : Json := if v.truthy then v else .obj []

end JsonDesk
