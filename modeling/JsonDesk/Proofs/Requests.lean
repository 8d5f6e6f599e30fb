import JsonDesk.Proofs.Events

/-!
The replies that an editor has still to deal with: those of the requests that wait in its client,
and those that a timer will hand on.  A reply that reshapes a text is only ever expected because
the button for that was pressed, and it names the text that was there at that time.
-/

set_option autoImplicit false

namespace JsonDesk

open EditorM

namespace Editor

/-- All replies that are still to come have the property. -/
structure Expects (P : Reply → Prop) (e : Editor) : Prop where
  waiting : ∀ w ∈ e.client.waiting, P w.onResult
  postponed : ∀ t ∈ e.timers, ∀ r payload, t.job = .reply r payload → P r

theorem Expects.of_core {P : Reply → Prop} {e e' : Editor} (h : Expects P e)
    (hs : SameCore e e') : Expects P e' := by
  have hclient : e'.client = e.client := congrArg Core.client hs
  have htimers : e'.timers = e.timers := congrArg Core.timers hs
  constructor
  · rw [hclient]
    exact h.waiting
  · rw [htimers]
    exact h.postponed

theorem Expects.imp {P Q : Reply → Prop} {e : Editor} (h : Expects P e) (hPQ : ∀ r, P r → Q r) :
    Expects Q e :=
  ⟨fun w hw => hPQ _ (h.waiting w hw),
    fun t ht r payload hr => hPQ r (h.postponed t ht r payload hr)⟩

theorem Expects.filter {P : Reply → Prop} {e : Editor} (h : Expects P e)
    (p : Timer Job → Bool) : Expects P { e with timers := e.timers.filter p } :=
  ⟨h.waiting, fun t ht => h.postponed t (List.mem_filter.mp ht).1⟩

/-- If the first editor expects such replies only, so does the second. -/
def Onward (P : Reply → Prop) (e e' : Editor) : Prop := Expects P e → Expects P e'

instance (P : Reply → Prop) : IsPreorder Editor (Onward P) where
  refl _ h := h
  trans _ _ _ h h' hp := h' (h hp)

end Editor

open Editor

namespace EditorM

variable {α : Type} {P : Reply → Prop}

abbrev Keeps (P : Reply → Prop) (m : EditorM α) : Prop := Leads (Onward P) m

theorem keeps_of_core {m : EditorM α} (h : Leads SameCore m) : Keeps P m :=
  fun e he => he.of_core (h e)

theorem keeps_startTimer (owner : Option Nat) (delay : Int) {job : Job}
    (hjob : ∀ r payload, job = .reply r payload → P r) : Keeps P (startTimer owner delay job) := by
  refine .bind (.attempt _) fun _ => ?_
  intro e he
  refine ⟨he.waiting, fun t ht => ?_⟩
  cases List.mem_append.mp ht with
  | inl ht => exact he.postponed t ht
  | inr ht =>
    rw [List.mem_singleton.mp ht]
    exact hjob

theorem keeps_accept {handle : Reply → Json → EditorM Unit} {e : Editor} (response : Json)
    (hh : ∀ r payload c, P r →
      Onward P { e with client := c } (after (handle r payload) { e with client := c })) :
    Onward P e (after (accept handle response) e) := by
  intro he
  unfold accept
  rw [after_get_bind, after_ofExcept_bind]
  split
  · next p hreceive =>
    obtain ⟨c, d⟩ := p
    obtain ⟨hsub, hresult⟩ := Client.receive_ok hreceive
    have hc : Expects P { e with client := c } :=
      ⟨fun w hw => he.waiting w (hsub w hw), he.postponed⟩
    rw [after_set_bind]
    split
    · next r payload =>
      obtain ⟨w, hw, rfl⟩ := hresult r payload rfl
      exact hh _ payload c (he.waiting w hw) hc
    · exact hc
  · exact he

theorem keeps_postpone {r : Reply} (hr : P r) (payload : Json) : Keeps P (postpone r payload) := by
  refine .tryCatch (.bind (keeps_startTimer none 0 ?_) fun _ => .pure _) fun _ => .pure _
  intro r' payload' hjob
  cases hjob
  exact hr

theorem keeps_ask (op : Operation) (payload : Json) {r : Reply} (hr : P r)
    {handle : Json → EditorM Unit} {e : Editor}
    (hh : e.setup.engine = .inline → ∀ payload, Keeps P (handle payload)) :
    Onward P e (after (ask op payload r handle) e) := by
  intro he
  let id := e.setup.freshId e.idsTaken
  have hasked : Expects P { e with
      idsTaken := e.idsTaken + 1,
      client := e.client.enter ⟨id, Client.message (.str op.name) payload id, r, none⟩ } := by
    refine ⟨fun w hw => ?_, he.postponed⟩
    cases List.mem_append.mp hw with
    | inl hw => exact he.waiting w hw
    | inr hw =>
      rw [List.mem_singleton.mp hw]
      exact hr
  unfold ask freshId
  simp only [bind_assoc, pure_bind]
  rw [after_get_bind, after_set_bind, after_modify_bind, after_get_bind]
  split
  · exact hasked.of_core rfl
  · exact keeps_accept _ (fun r payload _ hr => keeps_postpone hr payload _) hasked
  · next hengine => exact keeps_accept _ (fun _ payload _ _ => hh hengine payload _) hasked

theorem admits_onward : Admits (Onward P) P where
  calm hc he := he.of_core hc.core
  startTimer _ _ _ _ hs := keeps_startTimer _ _ (fun r payload h => absurd h (hs.ne_reply r payload)) _
  dropTimers _ p he := he.filter p
  dropRequests _ _ hc he := ⟨fun w hw => he.waiting w (hc w hw), he.postponed⟩
  ask op payload _ _ _ hr hh := keeps_ask op payload hr hh
  warn payload := keeps_of_core (shows_core.warnIfInvalid payload)
  openWindow _ _ he := he.of_core rfl
  useWindow _ _ _ he := he.of_core rfl
  leaveWindow _ he := he.of_core rfl
  loseAny _ _ he := he.of_core rfl
  close _ he := ⟨he.waiting, by simp⟩

section

variable (hP : ∀ r, r.isReshape = false → P r)
include hP

theorem keeps_feedback : Keeps P feedback :=
  admits_onward.feedback (shows_core.mono fun _ _ hs he => he.of_core hs)
    (fun _ _ he => ⟨he.waiting, he.postponed⟩) (fun _ _ _ => hP _ rfl) fun _ => hP _ rfl

theorem keeps_comparison (w : Nat) : Keeps P (comparison w) :=
  admits_onward.compared (fun hs he => he.of_core hs.1) w fun _ _ => hP _ rfl

theorem keeps_replyHandle (r : Reply) (payload : Json) : Keeps P (r.handle payload) :=
  admits_onward.handle (shows_core.mono fun _ _ hs he => he.of_core hs) (hP _ rfl)
    (fun _ _ _ _ => (status_applyPart _ _ _ _).mono fun _ _ hs he => he.of_core hs.1) r payload

end

end EditorM

namespace Editor

variable {P : Reply → Prop}

theorem expects_next (hP : ∀ r, r.isReshape = false → P r) {e e' : Editor} {event : Event}
    (hnext : e.next? event = some e') (hasked : ∀ a r, event = .act a → Asks e a r → P r)
    (he : Expects P e) : Expects P e' := by
  have hhandle (r : Reply) (payload : Json) (s : Editor) := keeps_replyHandle hP r payload s
  have harrived {s s' : Editor} (h : Arrives (Onward P) s s') : Onward P s s' :=
    admits_onward.arrived (keeps_feedback hP) (keeps_comparison hP) h
  refine keeps_next (fun stop s s' hturn hs => ?_) (fun _ _ hs => hs.of_core rfl) hnext
    (fun hwait => ?_) he
  · exact harrived (admits_onward.turn admits_onward.tabs hturn fun r payload s _ _ =>
      hhandle r payload s) hs
  · exact harrived (admits_onward.onward (hP _ rfl) hwait hnext hasked
      fun r payload s _ _ => hhandle r payload s) he

theorem expects_start {setup : Setup} {disk : Disk}
    {refused : List Command} {path : Text} {e : Editor}
    (h : start setup disk refused path = .ok e) : Expects P e := by
  obtain ⟨taken, settings, session, honward⟩ := admits_onward.start h
  exact honward ⟨by simp [bare, Client.empty], by simp [bare]⟩

/-! ### Runs -/

/-- A run from one editor to another, with the states it went through and what happened there. -/
inductive Run (e₀ : Editor) : List (Editor × Event) → Editor → Prop
  | start : Run e₀ [] e₀
  | step {past : List (Editor × Event)} {e e' : Editor} (event : Event) :
    Run e₀ past e → e.next? event = some e' → Run e₀ (past ++ [(e, event)]) e'

/-- The editor that some events lead to, as long as each of them is possible. -/
def follow (e : Editor) (events : List Event) : Option Editor := events.foldlM next? e

theorem run_of_follow {e₀ e : Editor} {events : List Event} (h : e₀.follow events = some e) :
    ∃ past, Run e₀ past e ∧ past.map Prod.snd = events := by
  induction events using List.reverseRecOn generalizing e with
  | nil =>
    cases h
    exact ⟨[], .start, rfl⟩
  | append_singleton events event ih =>
    rw [follow, List.foldlM_append] at h
    obtain ⟨e₁, h₁, hlast⟩ := Option.bind_eq_some_iff.mp h
    obtain ⟨past, hpast, heq⟩ := ih h₁
    exact ⟨_, .step event hpast (by simpa using hlast), by simp [heq]⟩

/-- A reply that reshapes a text was asked for during the run, in the state that it tells of. -/
def Asked (past : List (Editor × Event)) (r : Reply) : Prop :=
  r.isReshape = true → ∃ e a, (e, Event.act a) ∈ past ∧ Asks e a r

/-- Whatever happens, each reply that reshapes a text was asked for by the press of a button. -/
theorem Run.expects {e₀ e : Editor} {past : List (Editor × Event)} (h : Run e₀ past e)
    (h₀ : Expects (Asked []) e₀) : Expects (Asked past) e := by
  induction h with
  | start => exact h₀
  | @step past e e' event hrun hnext ih =>
    have hmore {r : Reply} (hr : Asked past r) : Asked (past ++ [(e, event)]) r := by
      intro hreshape
      obtain ⟨e₁, a, hmem, hasks⟩ := hr hreshape
      exact ⟨e₁, a, List.mem_append_left _ hmem, hasks⟩
    have hother (r : Reply) (hr : r.isReshape = false) : Asked (past ++ [(e, event)]) r := by
      intro hreshape
      rw [hr] at hreshape
      cases hreshape
    exact expects_next hother hnext (fun a r hact hr _ => ⟨e, a, by simp [hact], hr⟩)
      (ih.imp fun r hr => hmore hr)

end Editor

end JsonDesk
