import JsonDesk.Worker
import Mathlib.Data.List.Nodup

/-!
The background worker loses nothing.  Markers that end a thread do not say which; what counts is
that there are always as many threads as markers, and one more while the worker is running.
-/

set_option autoImplicit false

namespace JsonDesk

variable {μ : Type}

namespace WorkerItem

def message? : WorkerItem μ → Option μ
  | message m => some m
  | stop => none

def isStop : WorkerItem μ → Bool
  | message _ => false
  | stop => true

@[simp] theorem message?_message (m : μ) : (message m).message? = some m := rfl

@[simp] theorem message?_stop : (stop : WorkerItem μ).message? = none := rfl

@[simp] theorem isStop_message (m : μ) : (message m).isStop = false := rfl

@[simp] theorem isStop_stop : (stop : WorkerItem μ).isStop = true := rfl

end WorkerItem

namespace Worker

open WorkerItem (message? isStop)

variable {w w' : Worker μ} {m : μ} {x : Option μ} {thread : Nat}

def messages (w : Worker μ) : List μ := w.queue.filterMap message?

def stops (w : Worker μ) : Nat := w.queue.countP isStop

/-! ### What one operation does -/

theorem running_of_isRunning (h : w.isRunning = true) : w.running = true := by
  simp only [isRunning, Bool.and_eq_true] at h
  exact h.1

theorem post_ok (h : w.post m = .ok w') :
    w.running = true ∧ w' = { w with queue := w.queue ++ [.message m] } := by
  unfold post at h
  split at h
  · next hrunning =>
    cases h
    exact ⟨running_of_isRunning hrunning, rfl⟩
  · cases h

theorem take_some (h : w.take thread = some (x, w')) : thread ∈ w.alive ∧ ∃ rest,
    (∃ m, x = some m ∧ w.queue = .message m :: rest ∧ w' = { w with queue := rest }) ∨
    (x = none ∧ w.queue = .stop :: rest ∧
      w' = { w with queue := rest, alive := w.alive.erase thread }) := by
  unfold take at h
  split at h
  · next halive =>
    refine ⟨by simpa using halive, ?_⟩
    split at h
    · cases h
    · next m rest hqueue =>
      cases h
      exact ⟨rest, .inl ⟨m, rfl, hqueue, rfl⟩⟩
    · next rest hqueue =>
      cases h
      exact ⟨rest, .inr ⟨rfl, hqueue, rfl⟩⟩
  · cases h

theorem messages_start (w : Worker μ) : w.start.messages = w.messages := by
  unfold start
  split <;> rfl

theorem messages_stop (w : Worker μ) : w.stop.messages = w.messages := by
  unfold stop
  split
  · simp [messages]
  · rfl

theorem messages_post (h : w.post m = .ok w') : w'.messages = w.messages ++ [m] := by
  obtain ⟨-, rfl⟩ := post_ok h
  simp [messages]

theorem messages_take (h : w.take thread = some (x, w')) :
    x.toList ++ w'.messages = w.messages := by
  obtain ⟨-, rest, ⟨m, rfl, hqueue, rfl⟩ | ⟨rfl, hqueue, rfl⟩⟩ := take_some h
  · simp [messages, hqueue]
  · simp [messages, hqueue, List.filterMap_cons]

/-! ### What every operation keeps -/

/-- There is a thread for every marker in the queue, and one for a worker that is running; nothing
is behind the last marker unless the worker is running again. -/
structure Sound (w : Worker μ) : Prop where
  count : w.alive.length = w.stops + if w.running then 1 else 0
  closed : w.running = false → w.queue = [] ∨ w.queue.getLast? = some .stop
  distinct : w.alive.Nodup
  earlier : ∀ t ∈ w.alive, t < w.started

theorem sound_idle : Sound (idle : Worker μ) :=
  ⟨rfl, fun _ => .inl rfl, List.nodup_nil, nofun⟩

namespace Sound

theorem start (h : Sound w) : Sound w.start := by
  unfold Worker.start
  split
  · exact h
  · next hrunning =>
    have hfresh : w.started ∉ w.alive := fun hmem => Nat.lt_irrefl _ (h.earlier _ hmem)
    refine ⟨?_, nofun, ?_, fun t ht => ?_⟩
    · simpa [stops, hrunning] using h.count
    · exact List.nodup_append.mpr ⟨h.distinct, List.nodup_singleton _, by grind⟩
    · rcases List.mem_append.mp ht with ht | ht
      · exact Nat.lt_succ_of_lt (h.earlier t ht)
      · cases List.mem_singleton.mp ht
        exact Nat.lt_succ_self _

theorem stop (h : Sound w) : Sound w.stop := by
  unfold Worker.stop
  split
  · next hrunning =>
    refine ⟨?_, fun _ => .inr List.getLast?_concat, h.distinct, h.earlier⟩
    simpa [stops, hrunning] using h.count
  · exact h

theorem post (h : Sound w) (hpost : w.post m = .ok w') : Sound w' := by
  obtain ⟨hrunning, rfl⟩ := post_ok hpost
  refine ⟨?_, fun hstopped => ?_, h.distinct, h.earlier⟩
  · simpa [stops] using h.count
  · cases hrunning.symm.trans hstopped

theorem closed_rest (h : Sound w) {item : WorkerItem μ} {rest : List (WorkerItem μ)}
    (hqueue : w.queue = item :: rest) (hstopped : w.running = false) :
    rest = [] ∨ rest.getLast? = some .stop := by
  cases rest with
  | nil => exact .inl rfl
  | cons next rest =>
    have hlast := h.closed hstopped
    rw [hqueue] at hlast
    exact .inr (hlast.resolve_left (List.cons_ne_nil _ _))

theorem take (h : Sound w) (htake : w.take thread = some (x, w')) : Sound w' := by
  obtain ⟨halive, rest, ⟨m, -, hqueue, rfl⟩ | ⟨-, hqueue, rfl⟩⟩ := take_some htake
  · refine ⟨?_, h.closed_rest hqueue, h.distinct, h.earlier⟩
    simpa [stops, hqueue] using h.count
  · refine ⟨?_, h.closed_rest hqueue, h.distinct.erase _,
      fun t ht => h.earlier t (List.mem_of_mem_erase ht)⟩
    have hcount := h.count
    simp only [stops, hqueue, List.countP_cons, WorkerItem.isStop_stop, if_true] at hcount ⊢
    rw [List.length_erase_of_mem halive]
    omega

/-- As long as something is queued there is a thread to take it. -/
theorem alive_of_queue (h : Sound w) (hqueue : w.queue ≠ []) : w.alive ≠ [] := by
  intro halive
  have hcount := h.count
  rw [halive] at hcount
  cases hrunning : w.running with
  | true => simp [hrunning] at hcount
  | false =>
    have hlast := (h.closed hrunning).resolve_left hqueue
    have hstops : 0 < w.stops := List.countP_pos_iff.mpr ⟨_, List.mem_of_getLast? hlast, rfl⟩
    simp [hrunning] at hcount
    omega

theorem exists_take (h : Sound w) (hqueue : w.queue ≠ []) :
    ∃ t x w', w.alive.head? = some t ∧ w.take t = some (x, w') := by
  obtain ⟨t, rest, halive⟩ := List.exists_cons_of_ne_nil (h.alive_of_queue hqueue)
  refine ⟨t, ?_⟩
  unfold Worker.take
  rw [halive, if_pos (by simp)]
  split
  · next hnil => exact absurd hnil hqueue
  · exact ⟨_, _, rfl, rfl⟩
  · exact ⟨_, _, rfl, rfl⟩

theorem drain_go (left : Nat) (h : Sound w) (hleft : w.queue.length = left) (done : List μ) :
    (drain.go w left done).1 = done.reverse ++ w.messages ∧
      (drain.go w left done).2.queue = [] := by
  induction left generalizing w done with
  | zero =>
    have hqueue := List.length_eq_zero_iff.mp hleft
    simp [drain.go, messages, hqueue]
  | succ left ih =>
    obtain ⟨t, x, w', hhead, htake⟩ := h.exists_take (by rintro hnil; simp [hnil] at hleft)
    have hmessages := messages_take htake
    have hlength : w'.queue.length = left := by
      obtain ⟨-, rest, ⟨m, -, hqueue, rfl⟩ | ⟨-, hqueue, rfl⟩⟩ := take_some htake <;>
        simpa [hqueue] using hleft
    rw [drain.go, hhead, Option.bind_some, htake]
    cases x with
    | some m =>
      obtain ⟨hdone, hqueue⟩ := ih (h.take htake) hlength (m :: done)
      exact ⟨by rw [hdone, ← hmessages]; simp, hqueue⟩
    | none =>
      obtain ⟨hdone, hqueue⟩ := ih (h.take htake) hlength done
      exact ⟨by rw [hdone, ← hmessages]; simp, hqueue⟩

theorem drain (h : Sound w) : w.drain.1 = w.messages ∧ w.drain.2.queue = [] :=
  h.drain_go w.queue.length rfl []

end Sound

/-! ### Runs -/

/-- What happens to a worker.  Waiting for a thread to end, for however long, does nothing to it,
and a thread that is busy takes nothing until it is done. -/
inductive Move (μ : Type)
  | start
  | stop
  | post (m : μ)
  | take (thread : Nat)

/-- A worker, the messages that it accepted and those that its threads have taken. -/
structure History (μ : Type) where
  worker : Worker μ
  accepted : List μ
  handed : List μ

namespace History

/-- A message that is refused leaves all as it is, and so does a thread that waits or has ended. -/
def after (h : History μ) : Move μ → History μ
  | .start => { h with worker := h.worker.start }
  | .stop => { h with worker := h.worker.stop }
  | .post m =>
    match h.worker.post m with
    | .ok w => { h with worker := w, accepted := h.accepted ++ [m] }
    | .error _ => h
  | .take thread =>
    match h.worker.take thread with
    | some (x, w) => { h with worker := w, handed := h.handed ++ x.toList }
    | none => h

def run (moves : List (Move μ)) : History μ := moves.foldl after ⟨idle, [], []⟩

/-- Each accepted message has been taken or is in the queue. -/
structure Complete (h : History μ) : Prop where
  sound : h.worker.Sound
  accepted : h.accepted = h.handed ++ h.worker.messages

theorem Complete.after {h : History μ} (hh : Complete h) (move : Move μ) :
    Complete (h.after move) := by
  cases move with
  | start => exact ⟨hh.sound.start, by rw [History.after, messages_start]; exact hh.accepted⟩
  | stop => exact ⟨hh.sound.stop, by rw [History.after, messages_stop]; exact hh.accepted⟩
  | post m =>
    dsimp only [History.after]
    split
    · next w hpost =>
      exact ⟨hh.sound.post hpost, by simp [messages_post hpost, hh.accepted]⟩
    · exact hh
  | take thread =>
    dsimp only [History.after]
    split
    · next x w htake =>
      exact ⟨hh.sound.take htake, by simp [messages_take htake, hh.accepted]⟩
    · exact hh

theorem complete_run (moves : List (Move μ)) : Complete (run moves) := by
  have hgo (h : History μ) (hh : Complete h) : Complete (moves.foldl History.after h) := by
    induction moves generalizing h with
    | nil => exact hh
    | cons move moves ih => exact ih _ (hh.after move)
  exact hgo _ ⟨sound_idle, rfl⟩

end History

/-- However starts, stops, messages and the threads come together, there are as many threads as
markers in the queue, and one more while the worker is running.  Every accepted message is taken
once, in the order of acceptance, or still queued; then there is a thread that will take it. -/
theorem run_loses_nothing (moves : List (Move μ)) :
    (History.run moves).worker.alive.Nodup ∧
    (History.run moves).worker.alive.length = (History.run moves).worker.stops +
      (if (History.run moves).worker.running then 1 else 0) ∧
    (History.run moves).accepted =
      (History.run moves).handed ++ (History.run moves).worker.messages ∧
    ((History.run moves).worker.alive = [] → (History.run moves).worker.messages = []) ∧
    (History.run moves).worker.drain.1 = (History.run moves).worker.messages := by
  obtain ⟨hsound, haccepted⟩ := History.complete_run moves
  refine ⟨hsound.distinct, hsound.count, haccepted, fun halive => ?_, hsound.drain.1⟩
  have hqueue : (History.run moves).worker.queue = [] := by
    by_contra hqueue
    exact hsound.alive_of_queue hqueue halive
  rw [messages, hqueue]
  rfl

/-- A restart while the first thread is busy: the second thread takes the marker that was meant for
the first, which goes on until the next marker. -/
def overlap : List (Move Nat) :=
  [.start, .post 1, .stop, .start, .post 2, .take 0, .take 1, .take 0, .stop, .take 0]

theorem run_loses_nothing_overlap :
    (History.run (overlap.take 7)).worker.alive = [0] ∧
    (History.run overlap).worker.alive = [] ∧ (History.run overlap).handed = [1, 2] ∧
    (History.run overlap).accepted = [1, 2] ++ (History.run overlap).worker.messages ∧
    (History.run overlap).worker.messages = [] :=
  have h := run_loses_nothing overlap
  ⟨rfl, rfl, rfl, h.2.2.1, h.2.2.2.1 rfl⟩

end Worker

end JsonDesk
