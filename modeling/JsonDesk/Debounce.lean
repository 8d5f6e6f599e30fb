import JsonDesk.Json.Convert

/-!
Debouncing: a run is put off again and again and happens once, some time after the last request.
Everything a debouncer needs of its host is in `Host`; the rules are the same whatever the host is.
-/

set_option autoImplicit false

namespace JsonDesk.Debounce

/-- A host that starts and stops timers, and the slot for the timer of one debouncer. -/
structure Host (m : Type → Type) (δ α : Type) where
  start : δ → α → m Nat
  stop : Nat → m Unit
  pending : m (Option Nat)
  setPending : Option Nat → m Unit

section

variable {m : Type → Type} [Monad m] {δ α : Type} (h : Host m δ α)

/-- Forgets the pending timer and stops it. -/
def cancel : m Unit := do
  let pending ← h.pending
  h.setPending none
  match pending with
  | some id => h.stop id
  | none => pure ()

def schedule (delay : δ) (args : α) : m Unit := do
  cancel h
  let id ← h.start delay args
  h.setPending (some id)

def flush (run : α → m Unit) (args : α) : m Unit := do
  cancel h
  run args

def fire (run : α → m Unit) (args : α) : m Unit := do
  h.setPending none
  run args

end

/-- A delay is not negative. -/
def delayOf (v : Json) : Except Failure Int := v.toInt.map (max 0)

/-- A host that keeps its jobs until someone takes them, and remembers every delay and every call.
One whose jobs cannot be stopped keeps them all the same. -/
structure Bench (δ α : Type) where
  stoppable : Bool
  started : Nat
  jobs : List (Nat × α)
  delays : List δ
  calls : List α
  pending : Option Nat

namespace Bench

variable {δ α : Type}

def empty (stoppable : Bool) : Bench δ α := ⟨stoppable, 0, [], [], [], none⟩

def host : Host (StateM (Bench δ α)) δ α where
  start delay args := do
    let b ← get
    let id := b.started + 1
    set { b with started := id, jobs := b.jobs ++ [(id, args)], delays := b.delays ++ [delay] }
    return id
  stop id := modify fun b =>
    if b.stoppable then { b with jobs := b.jobs.filter fun j => j.1 != id } else b
  pending := do return (← get).pending
  setPending p := modify fun b => { b with pending := p }

def call (args : α) : StateM (Bench δ α) Unit :=
  modify fun b => { b with calls := b.calls ++ [args] }

def runAll : StateM (Bench δ α) Unit := do
  let jobs := (← get).jobs
  modify fun b => { b with jobs := [] }
  jobs.forM fun j => fire host call j.2

end Bench

end JsonDesk.Debounce
