import JsonDesk.Proofs.Requests
import JsonDesk.Proofs.Transparency

/-!
The results that the replies still to come will be handed.  An engine is honest if its responses are
answers to the messages of the requests that they find; then a result is always what serving the
request gives, whatever else has happened in between.
-/

set_option autoImplicit false

namespace JsonDesk

namespace Json

mutual

def sameTexts : Json → Json → Bool
  | .str t, .str u => t = u
  | .obj ms, .obj ns => sameMembers ms ns
  | _, _ => false

def sameMembers : Members → Members → Bool
  | [], [] => true
  | (t, v) :: ms, (u, w) :: ns => t = u && sameTexts v w && sameMembers ms ns
  | _, _ => false

end

mutual

theorem eq_of_sameTexts : ∀ {v w : Json}, sameTexts v w = true → v = w
  | .str _, .str _, h => congrArg Json.str (of_decide_eq_true h)
  | .obj _, .obj _, h => congrArg Json.obj (eq_of_sameMembers h)

theorem eq_of_sameMembers : ∀ {ms ns : Members}, sameMembers ms ns = true → ms = ns
  | [], [], _ => rfl
  | (t, v) :: ms, (u, w) :: ns, h => by
    simp only [sameMembers, Bool.and_eq_true, decide_eq_true_eq] at h
    rw [h.1.1, eq_of_sameTexts h.1.2, eq_of_sameMembers h.2]

end

end Json

namespace Client

variable {κ : Type}

theorem Call.outcome_eq (op : Operation) (payload : Json) (k : κ) :
    (⟨op.name, payload, k, none⟩ : Call κ).outcome =
      (op.serve payload).toOption.map fun result => .result k result := by
  cases h : op.serve payload with
  | error e =>
    simp only [outcome, respond_eq, Operation.ofName?_name, h, Response.error]
    rfl
  | ok result =>
    simp only [outcome, respond_eq, Operation.ofName?_name, h]
    exact if_neg op.resultType_ne_errorType

theorem receive_of_deliver {fallback : Json → Json} {c c' : Client κ} {r : Json}
    {d : Option (Delivery κ)} (h : c.deliver fallback r = (c', .ok d)) :
    c.receive fallback r = .ok (c', d) := by
  unfold deliver at h
  split at h
  · next heq =>
    cases h
    exact heq
  · cases h

theorem receive_only {c : Client κ} (hc : c.waiting = []) (q : Call κ) (id : Text) :
    (c.enter (q.waiting id)).receive inline (inline (q.message id)) = .ok (empty, q.outcome) := by
  have hw : (c.enter (q.waiting id)).waiting = [] ++ q.waiting id :: [] := by simp [enter, hc]
  have hanswer : Answers (q.message id) (inline (q.message id)) := .served
  have hdeliver : (c.enter (q.waiting id)).deliver inline (inline (q.message id)) = _ :=
    deliver_of_split hw (by simp [hw]) (responseId?_answer hanswer)
  rw [settle_answer hanswer] at hdeliver
  exact receive_of_deliver hdeliver

end Client

/-- A payload and the result that an operation gives for it. -/
structure Service where
  op : Operation
  payload : Json
  result : Json
  served : op.serve payload = .ok result

namespace Service

def message (a : Service) (id : Text) : Json := Client.message (.str a.op.name) a.payload id

def response (a : Service) (id : Text) : Json :=
  Response.toJson ⟨a.op.resultType, a.result, .str id⟩

theorem inline_message (a : Service) (id : Text) : Client.inline (a.message id) = a.response id := by
  have hrespond := Client.Call.respond_eq ⟨a.op.name, a.payload, (), none⟩ id
  simp only [Operation.ofName?_name, a.served] at hrespond
  exact congrArg Response.toJson hrespond

end Service

open Client EditorM

namespace Editor

/-- A response is an answer to whatever request it finds. -/
def Honest (e : Editor) (response : Json) : Prop :=
  ∀ w ∈ e.client.waiting, responseId? response = some w.id → Answers w.message response

/-- All replies that are still to come have the property, together with the result that they will be
handed.  Only a remote engine leaves requests waiting, and an inline one leaves nothing at all. -/
structure Awaits (P : Reply → Json → Prop) (e : Editor) : Prop where
  waiting : ∀ w ∈ e.client.waiting, ∃ (op : Operation) (payload : Json) (r : Reply) (id : Text),
    w = Call.waiting ⟨op.name, payload, r, none⟩ id ∧
      ∀ result, op.serve payload = .ok result → P r result
  postponed : ∀ t ∈ e.timers, ∀ r payload, t.job = .reply r payload → P r payload
  idle : e.setup.engine ≠ .remote → e.client.waiting = []
  atOnce : e.setup.engine = .inline → ∀ t ∈ e.timers, ∀ r payload, t.job ≠ .reply r payload

/-- Whether the requests that wait under an id all carry one message of nothing but texts. -/
def asksFor (e : Editor) (m : Json) (id : Text) : Bool :=
  e.client.waiting.all fun w => w.id = id → w.message.sameTexts m

theorem honest_of_asksFor {e : Editor} {a : Service} {id : Text}
    (h : e.asksFor (a.message id) id = true) : e.Honest (a.response id) := by
  rw [← a.inline_message]
  intro w hw hid
  have hserved : responseId? (Client.inline (a.message id)) = some id :=
    responseId?_answer (q := ⟨a.op.name, a.payload, (), none⟩) .served
  have hmessage := of_decide_eq_true (List.all_eq_true.mp h w hw)
  rw [Json.eq_of_sameTexts (hmessage (Option.some.inj (hid.symm.trans hserved)))]
  exact .served

/-- Gives its response to a request, as long as no other message waits under the id: the reply that
the result goes to, and the editor after it. -/
def respond? (e : Editor) (a : Service) (id : Text) : Option (Reply × Editor) :=
  if e.asksFor (a.message id) id then
    (e.client.find? id).bind fun w =>
      (e.next? (.act (.respond (a.response id)))).map fun e' => (w.onResult, e')
  else none

theorem respond?_eq_some {e e' : Editor} {a : Service} {id : Text} {r : Reply}
    (h : e.respond? a id = some (r, e')) :
    e.asksFor (a.message id) id = true ∧ (e.client.find? id).map (·.onResult) = some r ∧
      e.next? (.act (.respond (a.response id))) = some e' := by
  unfold respond? at h
  split at h
  · next hasks =>
    obtain ⟨w, hw, h⟩ := Option.bind_eq_some_iff.mp h
    obtain ⟨s, hnext, hs⟩ := Option.map_eq_some_iff.mp h
    cases hs
    exact ⟨hasks, by rw [hw]; rfl, hnext⟩
  · cases h

theorem delivers_of_respond? {e e' : Editor} {a : Service} {id : Text} {r : Reply}
    (h : e.respond? a id = some (r, e')) :
    Delivers e r a.result (.act (.respond (a.response id))) :=
  delivers_of_waiting (respond?_eq_some h).2.1 a.op.resultType_ne_errorType

variable {P : Reply → Json → Prop}

theorem Awaits.less {e e' : Editor} (h : Awaits P e)
    (hwaiting : ∀ w ∈ e'.client.waiting, w ∈ e.client.waiting)
    (htimers : ∀ t ∈ e'.timers, t ∈ e.timers) (hsetup : e'.setup = e.setup) : Awaits P e' where
  waiting w hw := h.waiting w (hwaiting w hw)
  postponed t ht := h.postponed t (htimers t ht)
  idle hengine := by
    have hnone := h.idle (hsetup ▸ hengine)
    exact List.eq_nil_iff_forall_not_mem.mpr fun w hw => by simpa [hnone] using hwaiting w hw
  atOnce hengine t ht := h.atOnce (hsetup ▸ hengine) t (htimers t ht)

theorem Awaits.of_core {e e' : Editor} (h : Awaits P e) (hs : SameCore e e') : Awaits P e' := by
  have hclient : e'.client = e.client := congrArg Core.client hs
  have htimers : e'.timers = e.timers := congrArg Core.timers hs
  exact h.less (fun w hw => hclient ▸ hw) (fun t ht => htimers ▸ ht) (congrArg Core.setup hs)

theorem Awaits.imp {P' : Reply → Json → Prop} {e : Editor} (h : Awaits P e)
    (himp : ∀ r payload, P r payload → P' r payload) : Awaits P' e where
  waiting w hw := by
    obtain ⟨op, payload, r, id, heq, hserve⟩ := h.waiting w hw
    exact ⟨op, payload, r, id, heq, fun result hresult => himp _ _ (hserve result hresult)⟩
  postponed t ht r payload hjob := himp r payload (h.postponed t ht r payload hjob)
  idle := h.idle
  atOnce := h.atOnce

theorem Awaits.no_delivery {e : Editor} (h : Awaits P e) (hengine : e.setup.engine = .inline)
    {r : Reply} {payload : Json} {event : Event} : ¬ Delivers e r payload event := by
  intro hd
  cases hd with
  | timer _ hdue hjob => exact h.atOnce hengine _ (mem_of_dueTimer? hdue) r payload hjob
  | response hreceive =>
    obtain ⟨w, hw, -⟩ := (Client.receive_ok hreceive).2 r payload rfl
    simp [h.idle (by simp [hengine])] at hw

theorem Delivers.awaited {e : Editor} {r : Reply} {payload : Json} {event : Event}
    (h : Delivers e r payload event) (he : Awaits P e)
    (hhonest : ∀ response, event = .act (.respond response) → e.Honest response) :
    P r payload := by
  cases h with
  | timer _ hdue hjob => exact he.postponed _ (mem_of_dueTimer? hdue) r payload hjob
  | @response response c hreceive =>
    have hdeliver : e.client.deliver Client.inline response =
        (c, .ok (some (.result r payload))) := by
      rw [Client.deliver, show e.client.receive Client.inline response = _ from hreceive]
    cases deliver_cases Client.inline e.client response with
    | inr hnone => exact absurd (congrArg Prod.snd hdeliver) (hnone.2.2 _)
    | inl hfound =>
      obtain ⟨w, hid, hfind, heq⟩ := hfound
      have hw := (find?_some hfind).1
      have hanswer := hhonest response rfl w hw hid
      obtain ⟨op, sent, k, id, rfl, hserve⟩ := he.waiting w hw
      have hsettle : settle Client.inline (Call.waiting ⟨op.name, sent, k, none⟩ id) response =
          some (.result r payload) := by
        rw [hdeliver] at heq
        exact (Except.ok.inj (congrArg Prod.snd heq)).symm
      rw [settle_answer hanswer, Call.outcome_eq] at hsettle
      cases hserved : op.serve sent with
      | error f =>
        rw [hserved] at hsettle
        cases hsettle
      | ok result =>
        rw [hserved] at hsettle
        cases hsettle
        exact hserve _ hserved

def Bears (P : Reply → Json → Prop) (e e' : Editor) : Prop := Awaits P e → Awaits P e'

instance (P : Reply → Json → Prop) : IsPreorder Editor (Bears P) where
  refl _ h := h
  trans _ _ _ h h' hp := h' (h hp)

end Editor

open Editor

namespace EditorM

variable {α : Type} {P : Reply → Json → Prop}

theorem bears_of_core {m : EditorM α} (h : Leads SameCore m) : Leads (Bears P) m :=
  fun e he => he.of_core (h e)

theorem bears_startTimer (owner : Option Nat) (delay : Int) {job : Job} {e : Editor}
    (hjob : ∀ r payload, job = .reply r payload → P r payload ∧ e.setup.engine ≠ .inline) :
    Bears P e (after (startTimer owner delay job) e) := by
  intro he
  obtain hsame | hstarted := after_startTimer owner delay job e
  · rw [hsame]
    exact he
  · rw [hstarted]
    refine ⟨he.waiting, ?_, he.idle, fun hengine => ?_⟩
    · exact List.forall_mem_append.mpr ⟨he.postponed,
        List.forall_mem_singleton.mpr fun r payload hr => (hjob r payload hr).1⟩
    · exact List.forall_mem_append.mpr ⟨he.atOnce hengine,
        List.forall_mem_singleton.mpr fun r payload hr => (hjob r payload hr).2 hengine⟩

theorem bears_postpone {r : Reply} {payload : Json} {e : Editor} (h : P r payload)
    (hengine : e.setup.engine ≠ .inline) : Bears P e (after (postpone r payload) e) := by
  rw [after_postpone]
  refine bears_startTimer none 0 fun r' payload' hjob => ?_
  cases hjob
  exact ⟨h, hengine⟩

def servedTo (op : Operation) (payload : Json) (handle : Json → EditorM Unit) : EditorM Unit :=
  match op.serve payload with
  | .ok result => handle result
  | .error _ => pure ()

def dispatch (engine : Engine) (message : Json) (handle : Json → EditorM Unit) : EditorM Unit :=
  match engine with
  | .remote => modify fun e => { e with posted := e.posted ++ [message] }
  | .background => accept postpone (Client.inline message)
  | .inline => accept (fun _ payload => handle payload) (Client.inline message)

theorem run_ask_eq (e : Editor) (op : Operation) (payload : Json) (r : Reply)
    (handle : Json → EditorM Unit) : (ask op payload r handle).run.run e =
      (dispatch e.setup.engine (Client.message (.str op.name) payload (e.setup.freshId e.idsTaken))
        handle).run.run { e with
          idsTaken := e.idsTaken + 1,
          client := e.client.enter
            (Call.waiting ⟨op.name, payload, r, none⟩ (e.setup.freshId e.idsTaken)) } := rfl

/-- An editor that serves its requests itself, or has them served by the worker, deals with the
result of a request before it goes on; the worker's result is put off. -/
theorem run_ask {e : Editor} (hengine : e.setup.engine ≠ .remote) (hidle : e.client.waiting = [])
    (op : Operation) (payload : Json) (r : Reply) (handle : Json → EditorM Unit) :
    (ask op payload r handle).run.run e =
      (servedTo op payload
        (if e.setup.engine = .inline then handle else postpone r)).run.run
          { e with idsTaken := e.idsTaken + 1, client := .empty } := by
  have hreceive := receive_only hidle ⟨op.name, payload, r, none⟩ (e.setup.freshId e.idsTaken)
  rw [Call.outcome_eq] at hreceive
  rw [run_ask_eq, servedTo]
  cases he : e.setup.engine with
  | remote => exact absurd he hengine
  | background =>
    refine Eq.trans (run_accept hreceive) ?_
    cases op.serve payload <;> rfl
  | inline =>
    refine Eq.trans (run_accept hreceive) ?_
    cases op.serve payload <;> rfl

theorem attains_ask {Q : Editor → Prop} {e : Editor} (hengine : e.setup.engine = .inline)
    (hidle : e.client.waiting = []) {op : Operation} {payload result : Json}
    (hserve : op.serve payload = .ok result) (r : Reply) {handle : Json → EditorM Unit}
    (h : Attains Q (handle result) { e with idsTaken := e.idsTaken + 1, client := .empty }) :
    Attains Q (ask op payload r handle) e := by
  unfold Attains after at h ⊢
  rw [run_ask (by simp [hengine]) hidle, servedTo, hserve, if_pos hengine]
  exact h

theorem after_ask_remote {e : Editor} (hengine : e.setup.engine = .remote) (op : Operation)
    (payload : Json) (r : Reply) (handle : Json → EditorM Unit) :
    after (ask op payload r handle) e = { e with
      idsTaken := e.idsTaken + 1,
      client := e.client.enter
        (Call.waiting ⟨op.name, payload, r, none⟩ (e.setup.freshId e.idsTaken)),
      posted := e.posted ++
        [Client.message (.str op.name) payload (e.setup.freshId e.idsTaken)] } := by
  rw [after, run_ask_eq, hengine]
  rfl

theorem bears_ask (op : Operation) (payload : Json) {r : Reply} {handle : Json → EditorM Unit}
    (hserve : ∀ result, op.serve payload = .ok result → P r result)
    {e : Editor} (hh : e.setup.engine = .inline → ∀ payload, Leads (Bears P) (handle payload)) :
    Bears P e (after (ask op payload r handle) e) := by
  intro he
  by_cases hengine : e.setup.engine = .remote
  · rw [after_ask_remote hengine]
    refine ⟨fun w hw => ?_, he.postponed, fun hne => absurd hengine hne, he.atOnce⟩
    cases List.mem_append.mp hw with
    | inl hw => exact he.waiting w hw
    | inr hw =>
      rw [List.mem_singleton.mp hw]
      exact ⟨op, payload, r, _, rfl, hserve⟩
  · -- nothing waits but the new request, and that is served at once
    have hempty : Awaits P { e with idsTaken := e.idsTaken + 1, client := .empty } :=
      he.less (by simp [Client.empty]) (fun _ ht => ht) rfl
    rw [after, run_ask hengine (he.idle hengine), servedTo]
    cases hresult : op.serve payload with
    | error f => exact hempty
    | ok result =>
      dsimp only
      split
      · next hinline => exact hh hinline result _ hempty
      · next hinline => exact bears_postpone (hserve result hresult) hinline hempty

theorem admits_bears : Admits (Bears P) fun r => ∀ result, P r result where
  calm hc he := he.of_core hc.core
  startTimer _ _ _ _ hs :=
    bears_startTimer _ _ fun r payload h => absurd h (hs.ne_reply r payload)
  dropTimers _ _ he := he.less (fun _ hw => hw) (fun _ ht => (List.mem_filter.mp ht).1) rfl
  dropRequests _ _ hc he := he.less hc (fun _ ht => ht) rfl
  ask op payload _ _ _ hr hh := bears_ask op payload (fun result _ => hr result) hh
  warn payload := bears_of_core (shows_core.warnIfInvalid payload)
  openWindow _ _ he := he.of_core rfl
  useWindow _ _ _ he := he.of_core rfl
  leaveWindow _ he := he.of_core rfl
  loseAny _ _ he := he.of_core rfl
  close _ he := he.less (fun _ hw => hw) (by simp) rfl

end EditorM

namespace Editor

/-- What happens to an editor one by one, turns of its loop among it, while an honest engine answers
in whatever order.  The clock goes on by itself. -/
inductive Course (e₀ : Editor) : List (Editor × Event) → Editor → Prop
  | start : Course e₀ [] e₀
  | step {past : List (Editor × Event)} {e e' : Editor} {event : Event} : Course e₀ past e →
    event.isWait = false → (∀ response, event = .act (.respond response) → e.Honest response) →
    e.next? event = some e' → Course e₀ (past ++ [(e, event)]) e'
  | clock {past : List (Editor × Event)} {e : Editor} (now : Int) :
    Course e₀ past e → Course e₀ past { e with now := now }

variable {e₀ e e' : Editor} {past : List (Editor × Event)}

theorem Course.turn (h : Course e₀ past e) {stop : Int} (hturn : e.turn? stop = some e') :
    Course e₀ (past ++ [(e, .turn stop)]) e' :=
  h.step rfl (fun _ hact => by cases hact) hturn

theorem Course.respond (h : Course e₀ past e) {a : Service} {id : Text} {r : Reply}
    (hrespond : e.respond? a id = some (r, e')) :
    Course e₀ (past ++ [(e, .act (.respond (a.response id)))]) e' := by
  obtain ⟨hasks, -, hnext⟩ := respond?_eq_some hrespond
  refine h.step rfl (fun response hact => ?_) hnext
  cases hact
  exact honest_of_asksFor hasks

theorem Course.turns (h : Course e₀ past e) (stop : Int) (left : Nat) :
    ∃ past', Course e₀ past' (turns stop left e) := by
  induction left generalizing past e with
  | zero => exact ⟨past, h⟩
  | succ left ih =>
    rw [Editor.turns]
    cases hturn : e.turn? stop with
    | none => exact ⟨past, h⟩
    | some e' => exact ih (h.turn hturn)

/-- Every run with an honest engine is a course: to wait is to take turns and to set the clock. -/
theorem Run.course (h : Run e₀ past e)
    (hhonest : ∀ s response, (s, Event.act (.respond response)) ∈ past → s.Honest response) :
    ∃ past', Course e₀ past' e := by
  induction h with
  | start => exact ⟨[], .start⟩
  | @step past s s' event _ hnext ih =>
    obtain ⟨past', hcourse⟩ := ih fun s response hmem =>
      hhonest s response (List.mem_append_left _ hmem)
    cases hwait : event.isWait with
    | false =>
      refine ⟨_, hcourse.step hwait (fun response hact => ?_) hnext⟩
      exact hhonest s response (by simp [hact])
    | true =>
      cases event with
      | turn => cases hwait
      | act a =>
        cases a with
        | wait t =>
          obtain ⟨past'', hturns⟩ := hcourse.turns (s.now + t) s.turnLimit
          cases hnext
          exact ⟨past'', hturns.clock _⟩
        | _ => cases hwait

theorem Course.follow {e₁ : Editor} {events : List Event} (hcourse : Course e₀ past e₁)
    (h : e₁.follow events = some e)
    (hwait : events.all fun event => !event.isWait)
    (hhonest : ∀ response, Event.act (.respond response) ∉ events) :
    ∃ past', Course e₀ past' e := by
  induction events using List.reverseRecOn generalizing e with
  | nil =>
    cases h
    exact ⟨past, hcourse⟩
  | append_singleton events event ih =>
    rw [Editor.follow, List.foldlM_append] at h
    obtain ⟨e₂, h₂, hlast⟩ := Option.bind_eq_some_iff.mp h
    simp only [List.all_append, List.all_cons, Bool.and_eq_true, Bool.not_eq_true',
      List.mem_append, List.mem_singleton, not_or] at hwait hhonest
    obtain ⟨past', hcourse'⟩ := ih h₂ hwait.1 fun response => (hhonest response).1
    refine ⟨_, hcourse'.step hwait.2.1 (fun response hact => ?_) (by simpa using hlast)⟩
    exact absurd hact.symm (hhonest response).2

theorem course_of_follow {events : List Event} (h : e₀.follow events = some e)
    (hwait : events.all fun event => !event.isWait)
    (hhonest : ∀ response, Event.act (.respond response) ∉ events) : ∃ past, Course e₀ past e :=
  Course.start.follow h hwait hhonest

end Editor

end JsonDesk
