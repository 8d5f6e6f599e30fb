import JsonDesk.Proofs.Routing
import JsonDesk.Worker

/-!
Where a request is served makes no difference.  A client makes calls while its engine comes and
goes.  What the engine takes is answered in any order, by what serves the message or by an error;
what it does not take is served on the spot.  In the end every caller has been handed exactly what
serving the call on the spot gives.
-/

set_option autoImplicit false

namespace JsonDesk

theorem Operation.resultType_ne_errorType (op : Operation) :
    op.resultType ≠ Response.errorType := by
  cases op <;> decide

theorem Json.orEmpty_str (t : Text) : (Json.str t).orEmpty = t := by
  cases t <;> rfl

namespace Client

variable {κ : Type}

/-- A call: an operation by any name, a payload of any kind, and what waits for the outcome. -/
structure Call (κ : Type) where
  op : Text
  payload : Json
  onResult : κ
  onError : Option κ

def inline (m : Json) : Json := (respond m).toJson

def takes (engine : Option (Worker Json)) (m : Json) : Bool :=
  match engine with
  | none => false
  | some worker => (worker.post m).isOk

theorem takes_stop (m : Json) (worker : Worker Json) : takes (some worker.stop) m = false := by
  have hstopped : worker.stop.isRunning = false := by
    rw [Worker.stop]
    split
    · rfl
    · next h => simp [Worker.isRunning, h]
  simp only [takes, Worker.post, hstopped]
  rfl

namespace Call

def message (q : Call κ) (id : Text) : Json := Client.message (.str q.op) q.payload id

def waiting (q : Call κ) (id : Text) : Waiting κ := ⟨id, q.message id, q.onResult, q.onError⟩

/-- What is handed to the caller when the call is served: the payload of a result, or the detail of
an error if the caller wants to know it. -/
def outcome (q : Call κ) : Option (Delivery κ) :=
  let r := respond (q.message [])
  if r.type = Response.errorType then q.onError.map fun k => .failure k r.payload.orEmpty
  else some (.result q.onResult r.payload)

theorem respond_eq (q : Call κ) (id : Text) : respond (q.message id) =
    match Operation.ofName? q.op with
    | none => .error ("Unknown request type: " ++ q.op) (.str id)
    | some op =>
      match op.serve q.payload with
      | .ok p => ⟨op.resultType, p, .str id⟩
      | .error e => .error e.message (.str id) := by
  have htype : requestedType (.obj [("type", .str q.op), ("payload", q.payload), ("id", .str id)]) =
      .ok (.str q.op) := rfl
  have hpayload : Json.field [("type", .str q.op), ("payload", q.payload), ("id", .str id)]
      "payload" = q.payload := rfl
  have hid : Json.field [("type", .str q.op), ("payload", q.payload), ("id", .str id)] "id" =
      .str id := rfl
  simp only [message, Client.message, respond, htype, hpayload, hid, Json.hashable, bind,
    Except.bind]
  cases Operation.ofName? q.op with
  | none => rfl
  | some op =>
    simp only
    cases op.serve q.payload <;> rfl

theorem respond_message (q : Call κ) :
    (∃ op p, ∀ id, respond (q.message id) = ⟨Operation.resultType op, p, .str id⟩) ∨
      ∃ d, ∀ id, respond (q.message id) = .error d (.str id) := by
  cases hop : Operation.ofName? q.op with
  | none => exact .inr ⟨_, fun id => by rw [respond_eq, hop]⟩
  | some op =>
    cases hserve : op.serve q.payload with
    | ok p => exact .inl ⟨op, p, fun id => by simp only [respond_eq, hop, hserve]⟩
    | error e => exact .inr ⟨e.message, fun id => by simp only [respond_eq, hop, hserve]⟩

theorem outcome_cases (q : Call κ) :
    (∃ op p, (∀ id, respond (q.message id) = ⟨Operation.resultType op, p, .str id⟩) ∧
      q.outcome = some (.result q.onResult p)) ∨
    ∃ d, (∀ id, respond (q.message id) = .error d (.str id)) ∧
      q.outcome = q.onError.map fun k => .failure k d := by
  cases q.respond_message with
  | inl h =>
    obtain ⟨op, p, h⟩ := h
    refine .inl ⟨op, p, h, ?_⟩
    rw [outcome, h]
    exact if_neg op.resultType_ne_errorType
  | inr h =>
    obtain ⟨d, h⟩ := h
    refine .inr ⟨d, h, ?_⟩
    rw [outcome, h]
    simp only [Response.error, if_true, Json.orEmpty_str]

end Call

theorem isError_toJson (r : Response) :
    isError r.toJson = decide (r.type = Response.errorType) := rfl

/-- What a message may be answered with: with what serves it, or with any error that has its id. -/
inductive Answers (m : Json) : Json → Prop
  | served : Answers m (inline m)
  | refused {r : Json} : isError r = true → responseId? r = responseId? m → Answers m r

theorem responseId?_answer {q : Call κ} {id : Text} {r : Json} (h : Answers (q.message id) r) :
    responseId? r = some id := by
  cases h with
  | refused _ hid => exact hid
  | served =>
    rw [inline]
    cases q.respond_message with
    | inl h =>
      obtain ⟨op, p, h⟩ := h
      rw [h]
      rfl
    | inr h =>
      obtain ⟨d, h⟩ := h
      rw [h]
      rfl

theorem settle_answer {q : Call κ} {id : Text} {r : Json} (h : Answers (q.message id) r) :
    settle inline (q.waiting id) r = q.outcome := by
  have hsettle : settle inline (q.waiting id) r =
      if isError (inline (q.message id)) then
        q.onError.map fun k => .failure k (payloadOf (inline (q.message id))).orEmpty
      else some (.result q.onResult (payloadOf (inline (q.message id)))) := by
    -- after an error the message is served on the spot, so either answer leads to the same
    cases h with
    | served => simp only [settle, Call.waiting, ite_self]
    | refused hr _ => simp only [settle, Call.waiting, hr, if_true]
  rw [hsettle]
  cases q.outcome_cases with
  | inl h =>
    obtain ⟨op, p, hserved, houtcome⟩ := h
    simp only [inline, hserved, houtcome, isError_toJson, op.resultType_ne_errorType]
    rfl
  | inr h =>
    obtain ⟨d, hserved, houtcome⟩ := h
    have hpayload : payloadOf (Response.error d (.str id)).toJson = .str d := rfl
    simp only [inline, hserved, houtcome, isError_toJson, hpayload, Json.orEmpty_str]
    rfl

theorem forget_of_split {c : Client κ} {front back : List (Waiting κ)} {w : Waiting κ}
    (hw : c.waiting = front ++ w :: back) (hids : (c.waiting.map Waiting.id).Nodup) :
    c.forget w.id = ⟨front ++ back⟩ := by
  have hother : ∀ v ∈ front ++ back, v.id ≠ w.id := by
    intro v hv hvid
    rw [hw, (List.perm_middle.map Waiting.id).nodup_iff, List.map_cons, List.nodup_cons] at hids
    exact hids.1 (hvid ▸ List.mem_map_of_mem hv)
  rw [forget, hw, List.filter_append, List.filter_cons_of_neg (by simp), ← List.filter_append,
    List.filter_eq_self.mpr fun v hv => by simpa using hother v hv]

/-- A response to one of the requests that wait takes that request away and settles it. -/
theorem deliver_of_split {fallback : Json → Json} {c : Client κ} {front back : List (Waiting κ)}
    {w : Waiting κ} {r : Json} (hw : c.waiting = front ++ w :: back)
    (hids : (c.waiting.map Waiting.id).Nodup) (hr : responseId? r = some w.id) :
    c.deliver fallback r = (⟨front ++ back⟩, .ok (settle fallback w r)) := by
  have hmem : w ∈ c.waiting := hw ▸ List.mem_append_right _ (.head _)
  cases deliver_cases fallback c r with
  | inr h => exact absurd hr (h.1 w hmem)
  | inl h =>
    obtain ⟨v, hv, hfind, hdeliver⟩ := h
    have hid : v.id = w.id := by simpa [hv] using hr
    obtain rfl : v = w := List.inj_on_of_nodup_map hids (find?_some hfind).1 hmem hid
    rw [hdeliver, forget_of_split hw hids]

/-- A client, the messages that its engine has taken and not answered, the calls made so far, and
what was handed to the callers. -/
structure Traffic (κ : Type) where
  client : Client κ
  posted : List Json
  made : List (Call κ)
  outcomes : List (Delivery κ)

namespace Traffic

def start : Traffic κ := ⟨empty, [], [], []⟩

def handOut : Except Failure (Option (Delivery κ)) → List (Delivery κ)
  | .ok d => d.toList
  | .error _ => []

/-- The client makes a call under an id, with the engine that there is. -/
def call (s : Traffic κ) (q : Call κ) (id : Text) (engine : Option (Worker Json)) : Traffic κ :=
  let taken := takes engine (q.message id)
  let done := s.client.request inline (q.waiting id) taken
  ⟨done.1, if taken then s.posted ++ [q.message id] else s.posted, s.made ++ [q],
    s.outcomes ++ handOut done.2⟩

/-- A response comes in, and some messages are left to be answered. -/
def hear (s : Traffic κ) (r : Json) (left : List Json) : Traffic κ :=
  let done := s.client.deliver inline r
  ⟨done.1, left, s.made, s.outcomes ++ handOut done.2⟩

/-- What can happen next.  A new id is one that no waiting request has.  Any of the posted messages
may be answered, each of them once; a response that is nobody's may come at any time. -/
inductive Step (s : Traffic κ) : Traffic κ → Prop
  | call (q : Call κ) (id : Text) (engine : Option (Worker Json)) :
    (∀ w ∈ s.client.waiting, w.id ≠ id) → Step s (s.call q id engine)
  | answer (front back : List Json) (m r : Json) : s.posted = front ++ m :: back → Answers m r →
    Step s (s.hear r (front ++ back))
  | stray (r : Json) : (∀ w ∈ s.client.waiting, responseId? r ≠ some w.id) →
    Step s (s.hear r s.posted)

inductive Reachable : Traffic κ → Prop
  | start : Reachable start
  | step {s s' : Traffic κ} : Reachable s → Step s s' → Reachable s'

/-- The calls that are open, each with its id, account for all that the client and the engine
hold, and for the outcomes that are still to come. -/
structure Accounts (s : Traffic κ) (opened : List (Call κ × Text)) : Prop where
  waiting : s.client.waiting = opened.map fun o => o.1.waiting o.2
  ids : (opened.map Prod.snd).Nodup
  posted : s.posted.Perm (opened.map fun o => o.1.message o.2)
  outcomes : (s.outcomes ++ opened.filterMap fun o => o.1.outcome).Perm
    (s.made.filterMap Call.outcome)

theorem Accounts.nodup {s : Traffic κ} {opened : List (Call κ × Text)} (h : s.Accounts opened) :
    (s.client.waiting.map Waiting.id).Nodup := by
  have hids : s.client.waiting.map Waiting.id = opened.map Prod.snd := by
    rw [h.waiting, List.map_map]
    rfl
  exact hids ▸ h.ids

variable {s : Traffic κ} {opened : List (Call κ × Text)}

def enter (s : Traffic κ) (q : Call κ) (id : Text) : Traffic κ :=
  ⟨s.client.enter (q.waiting id), s.posted ++ [q.message id], s.made ++ [q], s.outcomes⟩

/-- Serving a call on the spot is answering it before anything else happens. -/
theorem call_eq (s : Traffic κ) (q : Call κ) (id : Text) (engine : Option (Worker Json)) :
    s.call q id engine = if takes engine (q.message id) then s.enter q id
      else (s.enter q id).hear (inline (q.message id)) s.posted := by
  cases h : takes engine (q.message id) with
  | true => simp [call, enter, request, h, handOut]
  | false => simp [call, enter, hear, request, h, Call.waiting]

theorem Accounts.enter (h : s.Accounts opened) {q : Call κ} {id : Text}
    (hid : ∀ w ∈ s.client.waiting, w.id ≠ id) : (s.enter q id).Accounts (opened ++ [(q, id)]) where
  waiting := by
    rw [List.map_append, ← h.waiting]
    rfl
  ids := by
    have hfresh : id ∉ opened.map Prod.snd := by
      intro hmem
      obtain ⟨o, ho, rfl⟩ := List.mem_map.mp hmem
      exact hid (o.1.waiting o.2) (h.waiting ▸ List.mem_map_of_mem ho) rfl
    rw [List.map_append]
    exact h.ids.append (List.nodup_singleton id) (by simpa using hfresh)
  posted := by
    rw [List.map_append]
    exact h.posted.append_right _
  outcomes := by
    rw [List.filterMap_append, ← List.append_assoc]
    show List.Perm _ ((s.made ++ [q]).filterMap Call.outcome)
    rw [List.filterMap_append]
    exact h.outcomes.append_right _

theorem Accounts.answer {front back : List (Call κ × Text)} {q : Call κ} {id : Text}
    (h : s.Accounts (front ++ (q, id) :: back)) {r : Json} (hr : Answers (q.message id) r)
    {left : List Json} (hleft : s.posted.Perm (q.message id :: left)) :
    (s.hear r left).Accounts (front ++ back) := by
  have hwaiting := h.waiting
  rw [List.map_append, List.map_cons] at hwaiting
  have hdeliver : s.client.deliver inline r = (⟨_⟩, .ok (settle inline (q.waiting id) r)) :=
    deliver_of_split hwaiting h.nodup (responseId?_answer hr)
  rw [settle_answer hr, ← List.map_append] at hdeliver
  have hmiddle : (front ++ (q, id) :: back).Perm ((q, id) :: (front ++ back)) := List.perm_middle
  refine ⟨?waiting, ?ids, ?posted, ?outcomes⟩
  case waiting => simp only [hear, hdeliver]
  case ids =>
    have hids := (hmiddle.map Prod.snd).nodup_iff.mp h.ids
    exact (List.nodup_cons.mp hids).2
  case posted => exact (hleft.symm.trans (h.posted.trans (hmiddle.map _))).cons_inv
  case outcomes =>
    have hout : (s.hear r left).outcomes = s.outcomes ++ q.outcome.toList := by
      simp only [hear, hdeliver, handOut]
    have hsettled : ((q, id) :: (front ++ back)).filterMap (fun o => o.1.outcome) =
        q.outcome.toList ++ (front ++ back).filterMap fun o => o.1.outcome := by
      rw [List.filterMap_cons]
      cases q.outcome <;> rfl
    rw [hout, List.append_assoc, ← hsettled]
    exact ((hmiddle.filterMap _).symm.append_left _).trans h.outcomes

theorem Accounts.stray (h : s.Accounts opened) {r : Json}
    (hr : ∀ w ∈ s.client.waiting, responseId? r ≠ some w.id) :
    (s.hear r s.posted).Accounts opened := by
  have hsame : s.hear r s.posted = s := by
    cases deliver_cases inline s.client r with
    | inl hd =>
      obtain ⟨w, hid, hfind, -⟩ := hd
      exact absurd hid (hr w (find?_some hfind).1)
    | inr hd =>
      obtain ⟨-, hclient, hout⟩ := hd
      have hnone : handOut (s.client.deliver inline r).2 = [] := by
        cases hresult : (s.client.deliver inline r).2 with
        | error e => rfl
        | ok d =>
          cases d with
          | none => rfl
          | some d => exact absurd hresult (hout d)
      rw [hear, hclient, hnone, List.append_nil]
  rw [hsame]
  exact h

theorem Accounts.step {s' : Traffic κ} (h : s.Accounts opened) (hs : Step s s') :
    ∃ opened', s'.Accounts opened' := by
  cases hs with
  | call q id engine hid =>
    rw [call_eq]
    split
    · exact ⟨_, h.enter hid⟩
    · exact ⟨_, (h.enter hid).answer .served (List.perm_append_singleton _ _)⟩
  | answer front back m r hm hr =>
    have hmem : m ∈ opened.map fun o => o.1.message o.2 :=
      h.posted.subset (hm ▸ List.mem_append_right _ (.head _))
    obtain ⟨o, ho, rfl⟩ := List.mem_map.mp hmem
    obtain ⟨before, after, rfl⟩ := List.append_of_mem ho
    exact ⟨_, h.answer hr (hm ▸ List.perm_middle)⟩
  | stray r hr => exact ⟨_, h.stray hr⟩

theorem Reachable.accounts (h : Reachable s) : ∃ opened, s.Accounts opened := by
  induction h with
  | start => exact ⟨[], rfl, .nil, .refl _, .refl _⟩
  | step _ hs ih =>
    obtain ⟨opened, hopened⟩ := ih
    exact hopened.step hs

end Traffic

/-- Wherever they are served, all calls have the outcomes of being served on the spot, each
exactly once. -/
theorem calls_served_alike {s : Traffic κ} (h : s.Reachable) :
    (∀ q : Call κ,
      (∃ op p, (∀ id, respond (q.message id) = ⟨Operation.resultType op, p, .str id⟩) ∧
        q.outcome = some (.result q.onResult p)) ∨
      ∃ d, (∀ id, respond (q.message id) = .error d (.str id)) ∧
        q.outcome = q.onError.map fun k => .failure k d) ∧
    (∀ m, takes none m = false ∧ takes (some .idle) m = false ∧
      ∀ worker, takes (some (Worker.stop worker)) m = false) ∧
    s.client.pendingCount = s.posted.length ∧
    (s.posted = [] → s.outcomes.Perm (s.made.filterMap Call.outcome) ∧
      s.client.pendingCount = 0) := by
  obtain ⟨opened, hopened⟩ := h.accounts
  have hcount : s.client.pendingCount = s.posted.length := by
    rw [pendingCount, hopened.waiting, hopened.posted.length_eq, List.length_map, List.length_map]
  refine ⟨Call.outcome_cases, fun m => ⟨rfl, rfl, takes_stop m⟩, hcount, fun hposted => ?_⟩
  have hnone : opened = [] := by
    have hlength := hopened.posted.length_eq
    rw [hposted, List.length_map] at hlength
    exact List.eq_nil_of_length_eq_zero hlength.symm
  have houtcomes := hopened.outcomes
  rw [hnone, List.filterMap_nil, List.append_nil] at houtcomes
  exact ⟨houtcomes, by rw [hcount, hposted, List.length_nil]⟩

theorem calls_served_alike_reversed :
    let first : Call Nat := ⟨"MINIFY", .str "[ ]", 1, none⟩
    let second : Call Nat := ⟨"PRINT", .null, 2, some 3⟩
    let third : Call Nat := ⟨"MINIFY", .obj [("text", .str "\x7b \x7d")], 4, none⟩
    let crash := (Response.error "crashed" (.str "2")).toJson
    let running : Option (Worker Json) := some Worker.idle.start
    let called : Traffic Nat :=
      ((Traffic.start.call first "1" running).call second "2" running).call third "3" none
    let s := (called.hear crash [first.message "1"]).hear (inline (first.message "1")) []
    s.Reachable ∧ s.client.pendingCount = 0 ∧ s.outcomes.Perm [.result 1 (.str "[]"),
      .failure 3 "Unknown request type: PRINT", .result 4 (.str "\x7b\x7d")] := by
  intro first second third crash running called s
  have hone := Traffic.Reachable.start.step (.call first "1" running (by decide))
  have htwo := hone.step (.call second "2" running (by decide))
  have hcalled : called.Reachable := htwo.step (.call third "3" none (by decide))
  have hanswered := hcalled.step
    (.answer [first.message "1"] [] (second.message "2") crash rfl (.refused rfl rfl))
  have hs : s.Reachable := hanswered.step (.answer [] [] (first.message "1") _ rfl .served)
  obtain ⟨-, -, -, hdone⟩ := calls_served_alike hs
  obtain ⟨houtcomes, hpending⟩ := hdone rfl
  have hmade : s.made = [first, second, third] := rfl
  have hfirst : respond (first.message []) = ⟨"MINIFY_RESULT", .str "[]", .str []⟩ := by cbv
  have hthird : respond (third.message []) = ⟨"MINIFY_RESULT", .str "\x7b\x7d", .str []⟩ := by cbv
  have hcalls : s.made.filterMap Call.outcome = [.result 1 (.str "[]"),
      .failure 3 "Unknown request type: PRINT", .result 4 (.str "\x7b\x7d")] := by
    rw [hmade, List.filterMap_cons, List.filterMap_cons, List.filterMap_cons]
    simp only [Call.outcome, hfirst, hthird]
    rfl
  exact ⟨hs, hpending, hcalls ▸ houtcomes⟩

end Client

end JsonDesk
