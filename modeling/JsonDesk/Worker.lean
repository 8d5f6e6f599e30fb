import JsonDesk.Request

/-!
The background worker: a queue of messages, and the threads that take from it.  Stopping puts a
marker into the queue, which ends the thread that takes it; a worker that is started again before
has two threads for a while, and either may take the marker.
-/

set_option autoImplicit false

namespace JsonDesk

inductive WorkerItem (μ : Type)
  | message (m : μ)
  | stop

structure Worker (μ : Type) where
  /-- Whether the worker is marked as running. -/
  running : Bool
  /-- The threads that have not ended. -/
  alive : List Nat
  /-- The thread that was started last. -/
  current : Option Nat
  started : Nat
  queue : List (WorkerItem μ)

namespace Worker

variable {μ : Type}

def idle : Worker μ := ⟨false, [], none, 0, []⟩

def isRunning (w : Worker μ) : Bool :=
  w.running && match w.current with
    | some t => w.alive.contains t
    | none => false

def start (w : Worker μ) : Worker μ :=
  if w.running then w
  else
    { w with
      running := true, alive := w.alive ++ [w.started], current := some w.started,
      started := w.started + 1 }

def stop (w : Worker μ) : Worker μ :=
  if w.running then { w with running := false, queue := w.queue ++ [.stop] } else w

def post (w : Worker μ) (m : μ) : Except Failure (Worker μ) :=
  if w.isRunning then .ok { w with queue := w.queue ++ [.message m] } else .error .workerStopped

/-- What a live thread takes from the queue: a message to handle, or its end. -/
def take (w : Worker μ) (thread : Nat) : Option (Option μ × Worker μ) :=
  if w.alive.contains thread then
    match w.queue with
    | [] => none
    | .message m :: rest => some (some m, { w with queue := rest })
    | .stop :: rest => some (none, { w with queue := rest, alive := w.alive.erase thread })
  else none

/-- Lets the oldest live thread take whatever is queued, and gives the messages it took. -/
def drain (w : Worker μ) : List μ × Worker μ := go w w.queue.length []
where
  go (w : Worker μ) : (left : Nat) → List μ → List μ × Worker μ
  | 0, done => (done.reverse, w)
  | left + 1, done =>
    match w.alive.head?.bind w.take with
    | some (some m, w) => go w left (m :: done)
    | some (none, w) => go w left done
    | none => (done.reverse, w)

end Worker

end JsonDesk
