import JsonDesk.Editor.Action
import Mathlib.Order.Defs.Unbundled

/-!
Steps of the editor put together from smaller ones.  A step that fails keeps what was done up to the
failure, so what every part of a step does to the state, the whole step does to it as well.
-/

set_option autoImplicit false

namespace JsonDesk.EditorM

variable {α β : Type}

theorem run_bind {m : EditorM α} {f : α → EditorM β} {a : α} {e s : Editor}
    (hm : m.run.run e = (.ok a, s)) : (m >>= f).run.run e = (f a).run.run s := by
  simp only [ExceptT.run_bind, StateT.run_bind]
  rw [hm]
  rfl

theorem run_bind_error {m : EditorM α} {f : α → EditorM β} {x : Failure} {e s : Editor}
    (hm : m.run.run e = (.error x, s)) : (m >>= f).run.run e = (.error x, s) := by
  simp only [ExceptT.run_bind, StateT.run_bind]
  rw [hm]
  rfl

/-- The state that a step leads to, whether or not it fails. -/
def after (m : EditorM α) (e : Editor) : Editor := (m.run.run e).2

theorem after_bind (m : EditorM α) (f : α → EditorM β) (e : Editor) :
    after (m >>= f) e = match (m.run.run e).1 with
      | .ok a => after (f a) (after m e)
      | .error _ => after m e := by
  simp only [after, ExceptT.run_bind, StateT.run_bind]
  obtain ⟨r, e'⟩ := m.run.run e
  cases r <;> rfl

theorem after_bind_congr {m m' : EditorM α} {e e' : Editor} (h : m.run.run e = m'.run.run e')
    (f : α → EditorM β) : after (m >>= f) e = after (m' >>= f) e' := by
  rw [after_bind, after_bind, after, after, h]

@[simp] theorem after_get_bind (f : Editor → EditorM α) (e : Editor) :
    after (get >>= f) e = after (f e) e := rfl

@[simp] theorem after_set_bind (e' : Editor) (f : PUnit → EditorM α) (e : Editor) :
    after (set e' >>= f) e = after (f ⟨⟩) e' := rfl

@[simp] theorem after_modify_bind (g : Editor → Editor) (f : PUnit → EditorM α) (e : Editor) :
    after (modify g >>= f) e = after (f ⟨⟩) (g e) := rfl

theorem after_tryCatch (m : EditorM α) (h : Failure → EditorM α) (e : Editor) :
    after (tryCatch m h) e = match (m.run.run e).1 with
      | .ok _ => after m e
      | .error x => after (h x) (after m e) := by
  simp only [after, ExceptT.run_tryCatch, StateT.run_bind]
  obtain ⟨r, e'⟩ := m.run.run e
  cases r <;> rfl

theorem after_tryFinally (m : EditorM α) (f : EditorM β) (e : Editor) :
    after (tryFinally m f) e = after f (after m e) := by
  unfold after
  simp only [tryFinally, tryFinally', Functor.map, ExceptT.map, ExceptT.mk, bind, StateT.bind,
    ExceptT.run, StateT.run]
  cases m e with
  | mk r e' =>
    cases h : f e' with
    | mk r' e'' => cases r <;> cases r' <;> simp [h, pure] <;> rfl

theorem after_ofExcept (x : Except Failure α) (e : Editor) :
    after (MonadExcept.ofExcept x : EditorM α) e = e := by
  cases x <;> rfl

theorem after_ofExcept_bind (x : Except Failure α) (f : α → EditorM β) (e : Editor) :
    after (MonadExcept.ofExcept x >>= f) e = match x with
      | .ok a => after (f a) e
      | .error _ => e := by
  cases x <;> rfl

theorem run_useBox (n : BoxName) (e : Editor) : (useBox n).run.run e = match e.box? n with
    | some b => (.ok b, e)
    | none => (.error (.screen (.gone n.path)), e) := by
  show (match e.box? n with
    | some b => pure b
    | none => throw (.screen (.gone n.path)) : EditorM TextBox).run.run e = _
  cases e.box? n <;> rfl

theorem after_useBox_bind (n : BoxName) (f : TextBox → EditorM α) (e : Editor) :
    after (useBox n >>= f) e = match e.box? n with
      | some b => after (f b) e
      | none => e := by
  rw [after_bind, after, run_useBox]
  cases e.box? n <;> rfl

theorem run_attempt (c : Command) (e : Editor) : (attempt c).run.run e =
    (if !e.isOpen then .error (.screen (.closed c))
      else if e.refused.elem c then .error (.screen (.refused c)) else .ok ⟨⟩, e) := by
  have hrun : (attempt c).run.run e = (if !e.isOpen then throw (.screen (.closed c))
      else if e.refused.elem c then throw (.screen (.refused c))
      else pure () : EditorM Unit).run.run e := rfl
  rw [hrun]
  split
  · rfl
  · split <;> rfl

@[simp] theorem after_attempt (c : Command) (e : Editor) : after (attempt c) e = e :=
  congrArg Prod.snd (run_attempt c e)

theorem after_startTimer (owner : Option Nat) (delay : Int) (job : Job) (e : Editor) :
    after (startTimer owner delay job) e = e ∨ after (startTimer owner delay job) e = { e with
      timersStarted := e.timersStarted + 1,
      timers := e.timers ++ [⟨e.timersStarted + 1, e.now + delay, owner, job⟩] } := by
  unfold startTimer attempt
  rw [bind_assoc, after_get_bind]
  split
  · exact .inl rfl
  · split
    · exact .inl rfl
    · exact .inr rfl

theorem after_postpone (r : Reply) (payload : Json) (e : Editor) :
    after (postpone r payload) e = after (startTimer none 0 (.reply r payload)) e := by
  have hstart : after (startTimer none 0 (.reply r payload) >>= fun _ => pure ()) e =
      after (startTimer none 0 (.reply r payload)) e := by
    rw [after_bind]
    split <;> rfl
  unfold postpone
  rw [after_tryCatch]
  split
  · exact hstart
  · exact hstart

theorem call_snd (m : EditorM α) (e : Editor) :
    (call m e).2 = match (m.run.run e).1 with
      | .ok _ => after m e
      | .error f => (after m e).notice (.failed f) := by
  unfold call after
  obtain ⟨r, e'⟩ := m.run.run e
  cases r <;> rfl

/-- From every state the step leads to one that is related to it. -/
def Leads (R : Editor → Editor → Prop) (m : EditorM α) : Prop := ∀ e, R e (after m e)

namespace Leads

variable {R : Editor → Editor → Prop}

theorem get {f : Editor → EditorM α} (hf : ∀ e, Leads R (f e)) : Leads R (get >>= f) :=
  fun e => hf e e

theorem modify {g : Editor → Editor} (hg : ∀ e, R e (g e)) :
    Leads R (modify g : EditorM PUnit) := hg

theorem ite {c : Prop} [Decidable c] {m n : EditorM α} (hm : c → Leads R m)
    (hn : ¬ c → Leads R n) : Leads R (if c then m else n) := by
  split
  · exact hm ‹_›
  · exact hn ‹_›

theorem mono {S : Editor → Editor → Prop} (hRS : ∀ e e', R e e' → S e e') {m : EditorM α}
    (hm : Leads R m) : Leads S m := fun e => hRS e _ (hm e)

variable [IsPreorder Editor R]

theorem pure (a : α) : Leads R (pure a) := fun e => refl_of R e

theorem throw (x : Failure) : Leads R (throw x : EditorM α) := fun e => refl_of R e

theorem getSet {g : Editor → Editor} {f : Editor → PUnit → EditorM α} (hg : ∀ e, R e (g e))
    (hf : ∀ e, Leads R (f e ⟨⟩)) : Leads R (MonadState.get >>= fun e => set (g e) >>= f e) :=
  fun e => trans_of R (hg e) (hf e (g e))

theorem ofExcept (x : Except Failure α) : Leads R (MonadExcept.ofExcept x : EditorM α) := by
  intro e
  rw [after_ofExcept]
  exact refl_of R e

theorem bindAt {m : EditorM α} {f : α → EditorM β} {e : Editor} (hm : R e (after m e))
    (hf : ∀ a, R (after m e) (after (f a) (after m e))) : R e (after (m >>= f) e) := by
  rw [after_bind]
  cases (m.run.run e).1 with
  | ok a => exact trans_of R hm (hf a)
  | error x => exact hm

theorem bind {m : EditorM α} {f : α → EditorM β} (hm : Leads R m) (hf : ∀ a, Leads R (f a)) :
    Leads R (m >>= f) := fun e => bindAt (hm e) fun a => hf a _

theorem tryCatch {m : EditorM α} {h : Failure → EditorM α} (hm : Leads R m)
    (hh : ∀ x, Leads R (h x)) : Leads R (tryCatch m h) := by
  intro e
  rw [after_tryCatch]
  cases (m.run.run e).1 with
  | ok a => exact hm e
  | error x => exact trans_of R (hm e) (hh x _)

theorem finalize {m : EditorM α} {f : EditorM β} (hm : Leads R m) (hf : Leads R f) :
    Leads R (tryFinally m f) := by
  intro e
  rw [after_tryFinally]
  exact trans_of R (hm e) (hf _)

theorem forM {f : β → EditorM PUnit} {bs : List β} (hf : ∀ b ∈ bs, Leads R (f b)) :
    Leads R (bs.forM f) := by
  induction bs with
  | nil => exact pure _
  | cons b bs ih =>
    rw [List.forall_mem_cons] at hf
    exact bind hf.1 fun _ => ih hf.2

/-! What only looks at the state leads to it again. -/

theorem attempt (c : Command) : Leads R (attempt c) := by
  intro e
  rw [after_attempt]
  exact refl_of R e

theorem useBox (n : BoxName) : Leads R (useBox n) := by
  refine get fun e => ?_
  split
  · exact pure _
  · exact throw _

theorem withWindow {w : Nat} {f : CompareWindow → EditorM Unit} (hf : ∀ x, Leads R (f x)) :
    Leads R (withWindow w f) := by
  refine get fun e => ?_
  split
  · exact hf _
  · exact pure _

theorem withCompare {f : Nat → EditorM Unit} (hf : ∀ w, Leads R (f w)) :
    Leads R (withCompare f) := by
  refine get fun e => ?_
  split
  · exact hf _
  · exact pure _

theorem withPage {i : Nat} {f : Page → EditorM Unit} (hf : ∀ p, Leads R (f p)) :
    Leads R (withPage i f) := by
  refine get fun e => ?_
  split
  · exact hf _
  · exact pure _

theorem isAlive (w : Nat) : Leads R (isAlive w) :=
  tryCatch (bind (attempt _) fun _ => get fun _ => pure _) fun _ => pure _

theorem setLabel {l : Label} {f : StatusArea → StatusArea}
    (hf : ∀ e : Editor, R e { e with status := f e.status }) : Leads R (setLabel l f) := by
  intro e
  unfold EditorM.setLabel
  rw [after_get_bind]
  split
  · exact hf e
  · exact refl_of R e

end Leads

/-! ### Steps that do not fail -/

/-- The step does not fail, and leads to a state with the property. -/
def Attains (Q : Editor → Prop) (m : EditorM α) (e : Editor) : Prop :=
  ∃ a, (m.run.run e).1 = .ok a ∧ Q (after m e)

namespace Attains

variable {Q Q' : Editor → Prop} {e : Editor}

theorem after {m : EditorM α} (h : Attains Q m e) : Q (after m e) := h.choose_spec.2

theorem and {m : EditorM α} (h : Attains Q m e) (h' : Q' (EditorM.after m e)) :
    Attains (fun s => Q s ∧ Q' s) m e := by
  obtain ⟨a, hrun, hQ⟩ := h
  exact ⟨a, hrun, hQ, h'⟩

theorem imp {m : EditorM α} (h : Attains Q m e) (himp : ∀ s, Q s → Q' s) : Attains Q' m e := by
  obtain ⟨a, hrun, hQ⟩ := h
  exact ⟨a, hrun, himp _ hQ⟩

theorem after_bind {m : EditorM α} {f : α → EditorM β} (h : Attains Q m e) :
    ∃ a, EditorM.after (m >>= f) e = EditorM.after (f a) (EditorM.after m e) := by
  obtain ⟨a, hrun, -⟩ := h
  exact ⟨a, by rw [EditorM.after_bind, hrun]⟩

theorem known {m : EditorM α} {f : α → EditorM β} {a : α} {s : Editor}
    (hm : m.run.run e = (.ok a, s)) (hf : Attains Q (f a) s) : Attains Q (m >>= f) e := by
  unfold Attains EditorM.after at hf ⊢
  rw [run_bind hm]
  exact hf

theorem bind {m : EditorM α} {f : α → EditorM β} (hm : Attains Q m e)
    (hf : ∀ a s, Q s → Attains Q' (f a) s) : Attains Q' (m >>= f) e := by
  obtain ⟨a, hrun, hQ⟩ := hm
  exact known (Prod.ext hrun rfl) (hf a _ hQ)

theorem pure (a : α) (h : Q e) : Attains Q (pure a) e := ⟨a, rfl, h⟩

theorem get {f : Editor → EditorM α} (hf : Attains Q (f e) e) : Attains Q (get >>= f) e := hf

theorem modify {g : Editor → Editor} {f : PUnit → EditorM α} (hf : Attains Q (f ⟨⟩) (g e)) :
    Attains Q (modify g >>= f) e := hf

theorem set {f : PUnit → EditorM α} {s : Editor} (hf : Attains Q (f ⟨⟩) s) :
    Attains Q (set s >>= f) e := hf

theorem ofExcept {x : Except Failure α} {a : α} {f : α → EditorM β} (hx : x = .ok a)
    (hf : Attains Q (f a) e) : Attains Q (MonadExcept.ofExcept x >>= f) e := by
  rw [hx]
  exact hf

theorem useBox {n : BoxName} {b : TextBox} {f : TextBox → EditorM α} (hb : e.box? n = some b)
    (hf : Attains Q (f b) e) : Attains Q (useBox n >>= f) e := by
  unfold EditorM.useBox
  rw [bind_assoc]
  refine get ?_
  rw [hb]
  exact hf

end Attains

/-! ### Requests -/

section

variable {R : Editor → Editor → Prop} [IsPreorder Editor R]
  (hrequest : ∀ (e : Editor) (taken : Nat) (client : Client Reply) (posted : List Json),
    e.idsTaken ≤ taken → R e { e with idsTaken := taken, client := client, posted := posted })

theorem leads_accept (hclient : ∀ (e : Editor) (c : Client Reply), R e { e with client := c })
    {handle : Reply → Json → EditorM Unit} (response : Json) {e : Editor}
    (hh : ∀ r payload c,
      R { e with client := c } (after (handle r payload) { e with client := c })) :
    R e (after (accept handle response) e) := by
  unfold accept
  rw [after_get_bind, after_ofExcept_bind]
  split
  · next p _ =>
    obtain ⟨c, d⟩ := p
    rw [after_set_bind]
    split
    · exact trans_of R (hclient e c) (hh _ _ c)
    · exact hclient e c
  · exact refl_of R e

include hrequest in
/-- Only an inline engine has the result dealt with as part of the request. -/
theorem leads_ask (hpostpone : ∀ r payload, Leads R (postpone r payload)) (op : Operation)
    (payload : Json) (r : Reply) {handle : Json → EditorM Unit} {e : Editor}
    (hh : e.setup.engine = .inline → ∀ payload, Leads R (handle payload)) :
    R e (after (ask op payload r handle) e) := by
  have hclient (s : Editor) (c : Client Reply) : R s { s with client := c } :=
    hrequest s s.idsTaken c s.posted (Nat.le_refl _)
  let id := e.setup.freshId e.idsTaken
  let asked : Editor := { e with
    idsTaken := e.idsTaken + 1,
    client := e.client.enter ⟨id, Client.message (.str op.name) payload id, r, none⟩ }
  have hasked : R e asked := hrequest e (e.idsTaken + 1) _ e.posted (Nat.le_succ _)
  refine trans_of R hasked ?_
  unfold ask freshId
  simp only [bind_assoc, pure_bind]
  rw [after_get_bind, after_set_bind, after_modify_bind, after_get_bind]
  split
  · exact hrequest asked asked.idsTaken asked.client _ (Nat.le_refl _)
  · exact leads_accept hclient _ fun r payload _ => hpostpone r payload _
  · next hengine => exact leads_accept hclient _ fun _ payload _ => hh hengine payload _

end

/-! ### Relations that do not look at requests -/

/-- Whatever is asked for or becomes of it, the relation holds; identifiers are only ever taken. -/
def IgnoresRequests (R : Editor → Editor → Prop) : Prop :=
  ∀ (e : Editor) (taken started : Nat) (timers : List (Timer Job)) (client : Client Reply)
    (posted : List Json), e.idsTaken ≤ taken → R e { e with
      idsTaken := taken, timersStarted := started, timers := timers, client := client,
      posted := posted }

namespace IgnoresRequests

variable {R : Editor → Editor → Prop} (hR : IgnoresRequests R)
include hR

theorem dropTimers (e : Editor) (timers : List (Timer Job)) : R e { e with timers := timers } :=
  hR e e.idsTaken e.timersStarted timers e.client e.posted (Nat.le_refl _)

theorem dropRequests (e : Editor) (c : Client Reply) : R e { e with client := c } :=
  hR e e.idsTaken e.timersStarted e.timers c e.posted (Nat.le_refl _)

variable [IsPreorder Editor R]

theorem startTimer (owner : Option Nat) (delay : Int) (job : Job) :
    Leads R (startTimer owner delay job) :=
  .bind (.attempt _) fun _ e =>
    hR e e.idsTaken (e.timersStarted + 1) _ e.client e.posted (Nat.le_refl _)

theorem postpone (r : Reply) (payload : Json) : Leads R (postpone r payload) :=
  .tryCatch (.bind (hR.startTimer _ _ _) fun _ => .pure _) fun _ => .pure _

theorem accept {handle : Reply → Json → EditorM Unit} (response : Json) {e : Editor}
    (hh : ∀ r payload c,
      R { e with client := c } (after (handle r payload) { e with client := c })) :
    R e (after (accept handle response) e) :=
  leads_accept hR.dropRequests response hh

theorem ask (op : Operation) (payload : Json) (r : Reply) {handle : Json → EditorM Unit}
    {e : Editor} (hh : e.setup.engine = .inline → ∀ payload, Leads R (handle payload)) :
    R e (after (ask op payload r handle) e) :=
  leads_ask (fun e _ _ _ htaken => hR e _ e.timersStarted e.timers _ _ htaken) hR.postpone
    op payload r hh

end IgnoresRequests

/-- What a debouncer does to the state as long as it starts no timer. -/
structure HostStops (R : Editor → Editor → Prop) (h : Debounce.Host EditorM Int Unit) : Prop where
  stop : ∀ id, Leads R (h.stop id)
  pending : Leads R h.pending
  setPending : ∀ t, Leads R (h.setPending t)

structure HostLeads (R : Editor → Editor → Prop) (h : Debounce.Host EditorM Int Unit) : Prop
    extends HostStops R h where
  start : ∀ delay args, Leads R (h.start delay args)

section

variable {R : Editor → Editor → Prop} [IsPreorder Editor R] {h : Debounce.Host EditorM Int Unit}
  {run : Unit → EditorM Unit}

theorem HostStops.cancel (hh : HostStops R h) : Leads R (Debounce.cancel h) := by
  refine .bind hh.pending fun pending => .bind (hh.setPending none) fun _ => ?_
  split
  · exact hh.stop _
  · exact .pure _

theorem HostStops.flush (hh : HostStops R h) (hrun : Leads R (run ())) :
    Leads R (Debounce.flush h run ()) :=
  .bind hh.cancel fun _ => hrun

theorem HostLeads.schedule (hh : HostLeads R h) (delay : Int) :
    Leads R (Debounce.schedule h delay ()) :=
  .bind hh.cancel fun _ => .bind (hh.start delay ()) fun _ => hh.setPending _

end

end JsonDesk.EditorM
