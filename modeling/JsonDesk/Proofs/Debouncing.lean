import JsonDesk.Debounce
import Mathlib.Data.List.Chain
import Mathlib.Data.List.Nodup
import Mathlib.Data.List.Range

/-!
Debouncing.  Whatever is asked of a debouncer, also from within its own runs, there is a timer just
when a run is pending, it is that of the latest request, and every run has one cause.
-/

set_option autoImplicit false

namespace JsonDesk.Debounce

variable {α δ : Type}

/-- What has happened to a debouncer: requests, timers that went off, and runs. -/
inductive Entry (α : Type)
  | schedule (id : Nat) (args : α)
  | cancel
  | flush (args : α)
  | fire (id : Nat) (args : α)
  | run (args : α)

namespace Entry

def started? : Entry α → Option Nat
  | schedule id _ => some id
  | _ => none

def fired? : Entry α → Option Nat
  | fire id _ => some id
  | _ => none

def due? : Entry α → Option α
  | flush args => some args
  | fire _ args => some args
  | _ => none

/-- What may come directly behind an entry: a run that is due comes at once and no other does, and
only the timer that was started last goes off. -/
def Precedes : Entry α → Entry α → Prop
  | flush a, e => e = run a
  | fire _ a, e => e = run a
  | schedule id a, fire id' a' => id' = id ∧ a' = a
  | _, fire .. => False
  | _, run _ => False
  | _, _ => True

variable {e x : Entry α} {id : Nat} {args : α}

theorem eq_fire_of_fired (h : e.fired? = some id) : ∃ args, e = fire id args := by
  cases e with
  | fire id args =>
    cases h
    exact ⟨args, rfl⟩
  | _ => cases h

theorem precedes_run (h : x.Precedes (run args)) : x = flush args ∨ ∃ id, x = fire id args := by
  cases x with
  | flush a =>
    cases h
    exact .inl rfl
  | fire id a =>
    cases h
    exact .inr ⟨id, rfl⟩
  | schedule id a => exact h.elim
  | cancel => exact h.elim
  | run a => exact h.elim

theorem precedes_fire (h : x.Precedes (fire id args)) : x = schedule id args := by
  cases x with
  | schedule id a =>
    obtain ⟨rfl, rfl⟩ := h
    rfl
  | flush a => cases h
  | fire id a => cases h
  | cancel => exact h.elim
  | run a => exact h.elim

theorem eq_run_of_precedes (hdue : x.due? = some args) (h : x.Precedes e) : e = run args := by
  cases x with
  | flush a =>
    cases hdue
    exact h
  | fire id a =>
    cases hdue
    exact h
  | schedule id a => cases hdue
  | cancel => cases hdue
  | run a => cases hdue

/-- Is asked of a debouncer, and does not come from it. -/
def IsRequest : Entry α → Prop
  | schedule .. | cancel | flush _ => True
  | _ => False

theorem precedes_request (hdue : x.due? = none) (he : e.IsRequest) : x.Precedes e := by
  cases x with
  | flush a => cases hdue
  | fire id a => cases hdue
  | schedule id a => cases e <;> trivial
  | cancel => cases e <;> trivial
  | run a => cases e <;> trivial

end Entry

/-- A host with a log.  A timer is there until it is stopped or goes off. -/
structure Timers (α : Type) where
  issued : Nat
  jobs : List (Nat × α)
  pending : Option Nat
  log : List (Entry α)

/-- What is asked of a debouncer, and which timers go off; a run has a script of its own.  Nothing is
done behind a run, so that each moment of a script is the end of a shorter one. -/
inductive Script (α : Type)
  | done
  | schedule (args : α) (next : Script α)
  | cancel (next : Script α)
  | flush (args : α) (body next : Script α)
  | fire (id : Nat) (body next : Script α)

namespace Timers

def idle : Timers α := ⟨0, [], none, []⟩

def note (e : Entry α) : StateM (Timers α) Unit := modify fun s => { s with log := s.log ++ [e] }

def host (δ : Type) (fresh : Nat → Nat) : Host (StateM (Timers α)) δ α where
  start _ args := do
    let s ← get
    let id := fresh s.issued
    set { s with
      issued := s.issued + 1, jobs := s.jobs ++ [(id, args)], log := s.log ++ [Entry.schedule id args] }
    return id
  stop id := modify fun s => { s with jobs := s.jobs.filter fun j => j.1 != id }
  pending := do return (← get).pending
  setPending p := modify fun s => { s with pending := p }

def goOff (id : Nat) : StateM (Timers α) (Option α) := do
  let s ← get
  match s.jobs.find? fun j => j.1 == id with
  | some j =>
    set { s with jobs := s.jobs.filter fun j => j.1 != id, log := s.log ++ [Entry.fire id j.2] }
    return some j.2
  | none => return none

def play (fresh : Nat → Nat) (delay : δ) : Script α → StateM (Timers α) Unit
  | .done => pure ()
  | .schedule args next => do
    schedule (host δ fresh) delay args
    play fresh delay next
  | .cancel next => do
    note .cancel
    cancel (host δ fresh)
    play fresh delay next
  | .flush args body next => do
    note (.flush args)
    flush (host δ fresh) (fun a => do note (.run a); play fresh delay body) args
    play fresh delay next
  | .fire id body next => do
    match ← goOff id with
    | some args =>
      fire (host δ fresh) (fun a => do note (.run a); play fresh delay body) args
    | none => pure ()
    play fresh delay next

/-! ### What every request keeps -/

/-- What has happened last; before anything has, it is as if all had been cancelled. -/
def newest (s : Timers α) : Entry α := s.log.getLastD .cancel

/-- Just the timer of a request that nothing has followed is there. -/
def Holds (jobs : List (Nat × α)) (pending : Option Nat) : Entry α → Prop
  | .schedule id args => jobs = [(id, args)] ∧ pending = some id
  | .cancel => jobs = [] ∧ pending = none
  | .run _ => jobs = [] ∧ pending = none
  | _ => False

structure Regular (fresh : Nat → Nat) (s : Timers α) : Prop where
  order : (Entry.cancel :: s.log).IsChain Entry.Precedes
  slot : Holds s.jobs s.pending s.newest
  names : s.log.filterMap Entry.started? = (List.range s.issued).map fresh

/-- The timer that is pending is the only one there is. -/
def Tidy (s : Timers α) : Prop :=
  (s.jobs = [] ∧ s.pending = none) ∨ ∃ id args, s.jobs = [(id, args)] ∧ s.pending = some id

theorem Tidy.note {s : Timers α} (h : Tidy s) (log : List (Entry α)) :
    Tidy { s with log := log } := h

variable {fresh : Nat → Nat} {s s' : Timers α} {delay : δ} {id : Nat} {args : α} {e : Entry α}

theorem regular_idle (fresh : Nat → Nat) : Regular fresh (idle : Timers α) :=
  ⟨List.isChain_singleton _, ⟨rfl, rfl⟩, rfl⟩

theorem Regular.tidy (h : Regular fresh s) : Tidy s := by
  have hslot := h.slot
  unfold Holds at hslot
  split at hslot
  · exact .inr ⟨_, _, hslot⟩
  · exact .inl hslot
  · exact .inl hslot
  · exact hslot.elim

theorem Regular.newest_of_find (h : Regular fresh s) {j : Nat × α}
    (hfind : (s.jobs.find? fun j => j.1 == id) = some j) :
    s.newest = .schedule id j.2 ∧ (s.jobs.filter fun j => j.1 != id) = [] := by
  have hslot := h.slot
  unfold Holds at hslot
  split at hslot
  · next id' args hnewest =>
    have hid := List.find?_some hfind
    have hmem := List.mem_of_find?_eq_some hfind
    rw [hslot.1, List.mem_singleton] at hmem
    subst hmem
    obtain rfl : id' = id := by simpa using hid
    exact ⟨hnewest, by simp [hslot.1]⟩
  · simp [hslot.1] at hfind
  · simp [hslot.1] at hfind
  · exact hslot.elim

theorem newest_append (front : List (Entry α)) (e : Entry α) (jobs : List (Nat × α))
    (issued : Nat) (pending : Option Nat) :
    newest ⟨issued, jobs, pending, front ++ [e]⟩ = e := by
  simp [newest, List.getLastD_eq_getLast?]

theorem Regular.extend {es : List (Entry α)} (h : Regular fresh s) (hlog : s'.log = s.log ++ es)
    (horder : (s.newest :: es).IsChain Entry.Precedes) (hslot : Holds s'.jobs s'.pending s'.newest)
    (hnames : s'.log.filterMap Entry.started? = (List.range s'.issued).map fresh) :
    Regular fresh s' := by
  obtain ⟨hfirst, hes⟩ := List.isChain_cons.mp horder
  refine ⟨?_, hslot, hnames⟩
  rw [hlog, ← List.cons_append]
  refine List.isChain_append.mpr ⟨h.order, hes, fun x hx y hy => ?_⟩
  rw [List.getLast?_cons, Option.mem_some_iff] at hx
  subst hx
  rw [← List.getLastD_eq_getLast?]
  exact hfirst y hy

theorem Regular.due (h : Regular fresh s) : s.newest.due? = none := by
  have hslot := h.slot
  unfold Holds at hslot
  split at hslot
  · next hnewest => rw [hnewest]; rfl
  · next hnewest => rw [hnewest]; rfl
  · next hnewest => rw [hnewest]; rfl
  · exact hslot.elim

/-! ### Steps -/

theorem run_cancel (h : Tidy s) :
    (cancel (host δ fresh)).run s = ((), { s with jobs := [], pending := none }) := by
  obtain ⟨issued, jobs, pending, log⟩ := s
  obtain ⟨rfl, rfl⟩ | ⟨id, args, rfl, rfl⟩ := h
  · rfl
  · have hstop : [(id, args)].filter (fun j => j.1 != id) = [] := by simp
    exact congrArg (fun jobs => ((), (⟨issued, jobs, none, log⟩ : Timers α))) hstop

theorem run_schedule (h : Tidy s) (delay : δ) (args : α) :
    (schedule (host δ fresh) delay args).run s = ((), ⟨s.issued + 1, [(fresh s.issued, args)],
      some (fresh s.issued), s.log ++ [.schedule (fresh s.issued) args]⟩) := by
  unfold schedule
  rw [StateT.run_bind, run_cancel h]
  rfl

theorem run_flush (h : Tidy s) (run : α → StateM (Timers α) Unit) (args : α) :
    (flush (host δ fresh) run args).run s =
      (run args).run { s with jobs := [], pending := none } := by
  unfold flush
  rw [StateT.run_bind, run_cancel h]
  rfl

theorem run_goOff (id : Nat) (s : Timers α) : (goOff id).run s =
    match s.jobs.find? fun j => j.1 == id with
    | some j => (some j.2, { s with
        jobs := s.jobs.filter fun j => j.1 != id, log := s.log ++ [.fire id j.2] })
    | none => (none, s) := by
  unfold goOff
  rw [StateT.run_bind, StateT.run_get, pure_bind]
  cases s.jobs.find? fun j => j.1 == id <;> rfl

/-! ### Scripts -/

theorem Regular.schedule (h : Regular fresh s) (args : α) : Regular fresh
    ⟨s.issued + 1, [(fresh s.issued, args)], some (fresh s.issued),
      s.log ++ [.schedule (fresh s.issued) args]⟩ := by
  refine h.extend rfl (List.isChain_pair.mpr (Entry.precedes_request h.due trivial)) ?_ ?_
  · rw [newest_append]
    exact ⟨rfl, rfl⟩
  · rw [List.filterMap_append, h.names, List.range_succ, List.map_append]
    rfl

theorem Regular.cancel (h : Regular fresh s) :
    Regular fresh ⟨s.issued, [], none, s.log ++ [.cancel]⟩ := by
  refine h.extend rfl (List.isChain_pair.mpr (Entry.precedes_request h.due trivial)) ?_ ?_
  · rw [newest_append]
    exact ⟨rfl, rfl⟩
  · rw [List.filterMap_append, h.names]
    exact List.append_nil _

theorem Regular.run (h : Regular fresh s) {x : Entry α} (horder : s.newest.Precedes x)
    (hdue : x.Precedes (.run args)) (hstarted : x.started? = none) :
    Regular fresh ⟨s.issued, [], none, s.log ++ [x] ++ [.run args]⟩ := by
  have horder : [s.newest, x, .run args].IsChain Entry.Precedes :=
    .cons_cons horder (List.isChain_pair.mpr hdue)
  refine h.extend (by simp) horder ?_ ?_
  · rw [newest_append]
    exact ⟨rfl, rfl⟩
  · rw [List.append_assoc, List.filterMap_append, h.names, List.cons_append,
      List.filterMap_cons_none hstarted]
    exact List.append_nil _

theorem run_note_bind (e : Entry α) (f : Unit → StateM (Timers α) Unit) :
    (note e >>= f).run s = (f ()).run { s with log := s.log ++ [e] } := rfl

theorem regular_play (delay : δ) (script : Script α) (h : Regular fresh s) :
    Regular fresh ((play fresh delay script).run s).2 := by
  induction script generalizing s with
  | done => exact h
  | schedule args next ih =>
    rw [play, StateT.run_bind, run_schedule h.tidy]
    exact ih (h.schedule args)
  | cancel next ih =>
    rw [play, run_note_bind, StateT.run_bind, run_cancel (h.tidy.note _)]
    exact ih h.cancel
  | flush args body next ihbody ih =>
    have hrun := h.run (Entry.precedes_request (e := .flush args) h.due trivial) rfl rfl
    rw [play, run_note_bind, StateT.run_bind, run_flush (h.tidy.note _), run_note_bind]
    exact ih (ihbody hrun)
  | fire id body next ihbody ih =>
    rw [play, StateT.run_bind, run_goOff]
    cases hfind : s.jobs.find? fun j => j.1 == id with
    | none => exact ih h
    | some j =>
      obtain ⟨hnewest, hjobs⟩ := h.newest_of_find hfind
      have horder : s.newest.Precedes (.fire id j.2) := by
        rw [hnewest]
        exact ⟨rfl, rfl⟩
      dsimp only
      rw [hjobs]
      exact ih (ihbody (h.run horder rfl rfl))

/-! ### What a log tells -/

/-- Every timer that goes off is that of the request right before. -/
theorem fired_sublist {log : List (Entry α)} {x : Entry α}
    (h : (x :: log).IsChain Entry.Precedes) :
    (log.filterMap Entry.fired?).Sublist ((x :: log).filterMap Entry.started?) := by
  induction log generalizing x with
  | nil => exact List.nil_sublist _
  | cons y log ih =>
    obtain ⟨hxy, hlog⟩ := List.isChain_cons_cons.mp h
    have hrest := ih hlog
    cases hfired : y.fired? with
    | none =>
      rw [List.filterMap_cons_none hfired]
      exact hrest.trans ((List.sublist_cons_self _ _).filterMap _)
    | some id =>
      obtain ⟨a, rfl⟩ := Entry.eq_fire_of_fired hfired
      obtain rfl := Entry.precedes_fire hxy
      exact hrest.cons_cons id

theorem Regular.nodup_started (h : Regular fresh s) (hfresh : Function.Injective fresh) :
    (s.log.filterMap Entry.started?).Nodup := by
  rw [h.names]
  exact List.nodup_range.map hfresh

theorem Regular.nodup_fired (h : Regular fresh s) (hfresh : Function.Injective fresh) :
    (s.log.filterMap Entry.fired?).Nodup :=
  (h.nodup_started hfresh).sublist (fired_sublist h.order)

/-- What is right before an entry; at first it is as if all had been cancelled. -/
theorem Regular.precedes (h : Regular fresh s) {front back : List (Entry α)}
    (hlog : s.log = front ++ e :: back) : (front.getLastD .cancel).Precedes e := by
  have horder := h.order
  rw [hlog, ← List.cons_append] at horder
  refine (List.isChain_append.mp horder).2.2 _ ?_ e rfl
  rw [List.getLast?_cons, List.getLastD_eq_getLast?]
  rfl

theorem exists_of_getLastD {front : List (Entry α)} {x : Entry α}
    (h : front.getLastD .cancel = x) (hx : x ≠ .cancel) : ∃ early, front = early ++ [x] := by
  rw [List.getLastD_eq_getLast?] at h
  cases hlast : front.getLast? with
  | none =>
    rw [hlast] at h
    exact absurd h.symm hx
  | some y =>
    rw [hlast, Option.getD_some] at h
    exact List.getLast?_eq_some_iff.mp (h ▸ hlast)

/-- A run comes from a flush, or from the timer of the request that was the latest. -/
theorem Regular.cause (h : Regular fresh s) {front back : List (Entry α)}
    (hlog : s.log = front ++ .run args :: back) : (∃ early, front = early ++ [.flush args]) ∨
      ∃ early id, front = early ++ [.schedule id args, .fire id args] := by
  obtain hflush | ⟨id, hfire⟩ := Entry.precedes_run (h.precedes hlog)
  · exact .inl (exists_of_getLastD hflush nofun)
  · obtain ⟨early, rfl⟩ := exists_of_getLastD hfire nofun
    rw [List.append_assoc] at hlog
    obtain ⟨early, rfl⟩ :=
      exists_of_getLastD (Entry.precedes_fire (h.precedes hlog)) nofun
    exact .inr ⟨early, id, by simp⟩

theorem Regular.head_of_due (h : Regular fresh s) {front back : List (Entry α)}
    (hlog : s.log = front ++ e :: back) (hdue : e.due? = some args) :
    back.head? = some (.run args) := by
  cases back with
  | nil =>
    have hnone := h.due
    rw [newest, hlog, List.getLastD_eq_getLast?, List.getLast?_concat, Option.getD_some,
      hdue] at hnone
    cases hnone
  | cons y back =>
    rw [List.append_cons] at hlog
    have hprecedes := h.precedes hlog
    rw [List.getLastD_eq_getLast?, List.getLast?_concat, Option.getD_some] at hprecedes
    rw [Entry.eq_run_of_precedes hdue hprecedes]
    rfl

theorem Regular.mem_jobs_iff (h : Regular fresh s) : (id, args) ∈ s.jobs ↔
    s.pending = some id ∧ s.log.getLast? = some (.schedule id args) := by
  have hslot := h.slot
  unfold Holds at hslot
  split at hslot
  · next id' args' hnewest =>
    obtain ⟨early, hlog⟩ := exists_of_getLastD hnewest nofun
    rw [hslot.1, hslot.2, hlog, List.getLast?_concat]
    simp only [List.mem_singleton, Prod.mk.injEq, Option.some.injEq, Entry.schedule.injEq]
    grind
  · simp [hslot]
  · simp [hslot]
  · exact hslot.elim

end Timers

/-- Whatever is asked of a debouncer, also from within its runs, there is a timer just when a run is
pending, and it is that of the last request if nothing has come since.  Every run comes from a flush
with its arguments, or from the timer of a request that nothing has followed, and every flush and
every timer has its run at once.  No request is run twice. -/
theorem runs_have_causes {fresh : Nat → Nat} (hfresh : Function.Injective fresh) (delay : δ)
    (script : Script α) {s : Timers α} (hs : ((Timers.play fresh delay script).run .idle).2 = s) :
    s.jobs.length = (if s.pending.isSome then 1 else 0) ∧
    (∀ id args, (id, args) ∈ s.jobs ↔
      s.pending = some id ∧ s.log.getLast? = some (.schedule id args)) ∧
    (∀ front args back, s.log = front ++ .run args :: back →
      (∃ early, front = early ++ [.flush args]) ∨
      ∃ early id, front = early ++ [.schedule id args, .fire id args]) ∧
    (∀ front e back args, s.log = front ++ e :: back → e.due? = some args →
      back.head? = some (.run args)) ∧
    (s.log.filterMap Entry.started?).Nodup ∧ (s.log.filterMap Entry.fired?).Nodup := by
  subst hs
  have h := Timers.regular_play delay script (Timers.regular_idle fresh)
  refine ⟨?_, fun _ _ => h.mem_jobs_iff, fun _ _ _ => h.cause, fun _ _ _ _ => h.head_of_due,
    h.nodup_started hfresh, h.nodup_fired hfresh⟩
  obtain ⟨hjobs, hpending⟩ | ⟨id, args, hjobs, hpending⟩ := h.tidy
  · rw [hjobs, hpending]
    rfl
  · rw [hjobs, hpending]
    rfl

/-- A run that puts off another and flushes, and whose flush puts off a third; the timers of the
first request and of the one before the flush never go off. -/
def reentrant : Script Nat :=
  .schedule 1 <| .schedule 2 <| .fire 1 .done <|
    .fire 2 (.schedule 3 <| .flush 4 (.schedule 5 .done) .done) <| .fire 3 .done <|
    .fire 4 .done .done

theorem runs_have_causes_reentrant : Function.Injective Nat.succ ∧
    ((Timers.play Nat.succ () reentrant).run .idle).2.log =
      [.schedule 1 1, .schedule 2 2, .fire 2 2, .run 2, .schedule 3 3, .flush 4, .run 4,
        .schedule 4 5, .fire 4 5, .run 5] ∧
    ((Timers.play Nat.succ () reentrant).run .idle).2.jobs.length = 0 ∧
    (((Timers.play Nat.succ () reentrant).run .idle).2.log.filterMap Entry.fired?).Nodup :=
  have h := runs_have_causes Nat.succ_injective () reentrant rfl
  ⟨Nat.succ_injective, rfl, h.1, h.2.2.2.2.2⟩

end JsonDesk.Debounce
