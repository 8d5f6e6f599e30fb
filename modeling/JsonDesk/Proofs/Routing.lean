import JsonDesk.Client
import Mathlib.Data.List.Induction
import Mathlib.Data.List.Nodup

/-!
Which request a response belongs to.  A client is followed through any sequence of requests,
responses and ends.  The requests that wait in it are those that were made, and since then neither
answered nor ended; what it hands on is for the waiting request with the id of the response, and is
handed on once.
-/

set_option autoImplicit false

namespace JsonDesk.Client

variable {κ : Type}

/-- What happens to a client.  The engine takes a request or does not.  What is handed on comes
last, so whatever it leads to, further requests as well, are the next events. -/
inductive Event (κ : Type)
  | request (w : Waiting κ) (taken : Bool)
  | response (response : Json)
  | close

def react (fallback : Json → Json) (c : Client κ) :
    Event κ → Client κ × Except Failure (Option (Delivery κ))
  | .request w taken => c.request fallback w taken
  | .response r => c.deliver fallback r
  | .close => (c.close, .ok none)

def after (fallback : Json → Json) (es : List (Event κ)) : Client κ :=
  es.foldl (fun c e => (c.react fallback e).1) empty

def handed (fallback : Json → Json) (es : List (Event κ)) (e : Event κ) : Option (Delivery κ) :=
  match ((after fallback es).react fallback e).2 with
  | .ok delivery => delivery
  | .error _ => none

def responseId? : Json → Option Text
  | .obj ms =>
    match Json.field ms "id" with
    | .str id => some id
    | _ => none
  | _ => none

namespace Event

def made : Event κ → List (Waiting κ)
  | request w _ => [w]
  | _ => []

/-- The response that an event brings; the fallback answers what the engine does not take. -/
def heard? (fallback : Json → Json) : Event κ → Option Json
  | request _ true => none
  | request w false => some (fallback w.message)
  | response r => some r
  | close => none

def isClose : Event κ → Bool
  | close => true
  | _ => false

def ends (fallback : Json → Json) (id : Text) (e : Event κ) : Bool :=
  e.isClose || (e.heard? fallback).bind responseId? == some id

end Event

def requests (es : List (Event κ)) : List (Waiting κ) := es.flatMap Event.made

/-- The requests that were made, and then neither answered nor ended. -/
def outstanding (fallback : Json → Json) : List (Event κ) → List (Waiting κ)
  | [] => []
  | e :: es =>
    e.made.filter (fun w => !(e :: es).any fun e => e.ends fallback w.id) ++ outstanding fallback es

/-- How the response with its id serves a request.  An error is followed by what the fallback makes
of the request's own message. -/
inductive Serves (fallback : Json → Json) (w : Waiting κ) (r : Json) : Delivery κ → Prop
  | result : isError r = false → Serves fallback w r (.result w.onResult (payloadOf r))
  | retried : isError r = true → isError (fallback w.message) = false →
    Serves fallback w r (.result w.onResult (payloadOf (fallback w.message)))
  | failed {k : κ} : isError r = true → isError (fallback w.message) = true → w.onError = some k →
    Serves fallback w r (.failure k (payloadOf (fallback w.message)).orEmpty)

def Dispatches (fallback : Json → Json) (es : List (Event κ)) (e : Event κ) (w : Waiting κ) :
    Prop :=
  w ∈ requests (es ++ [e]) ∧ (e.heard? fallback).bind responseId? = some w.id ∧
    ∃ d, handed fallback es e = some d

variable {fallback : Json → Json}

theorem outstanding_concat (es : List (Event κ)) (e : Event κ) :
    outstanding fallback (es ++ [e]) =
      (outstanding fallback es ++ e.made).filter fun w => !e.ends fallback w.id := by
  induction es with
  | nil => simp [outstanding]
  | cons d es ih =>
    simp only [List.cons_append, outstanding, ih, List.filter_append, List.filter_filter,
      List.append_assoc]
    congr 1
    refine List.filter_congr fun w _ => ?_
    simp [Bool.and_assoc, Bool.and_comm, Bool.and_left_comm]

theorem outstanding_sublist (es : List (Event κ)) :
    (outstanding fallback es).Sublist (requests es) := by
  induction es with
  | nil => exact .slnil
  | cons e es ih => exact List.filter_sublist.append ih

theorem mem_requests_of_ends {before later : List (Event κ)} {e : Event κ} {w : Waiting κ}
    (h : w ∈ outstanding fallback (before ++ e :: later)) (he : e.ends fallback w.id = true) :
    w ∈ requests later := by
  induction before with
  | nil =>
    rw [List.nil_append, outstanding, List.mem_append, List.mem_filter] at h
    cases h with
    | inl h => simp [he] at h
    | inr h => exact (outstanding_sublist later).subset h
  | cons d before ih =>
    rw [List.cons_append, outstanding, List.mem_append, List.mem_filter] at h
    cases h with
    | inl h => simp [he] at h
    | inr h => exact ih h

/-! ### One event -/

theorem find?_some {c : Client κ} {id : Text} {w : Waiting κ} (h : c.find? id = some w) :
    w ∈ c.waiting ∧ w.id = id := by
  have hid := List.find?_some h
  exact ⟨List.mem_of_find?_eq_some h, by simpa using hid⟩

/-- A response is taken for the request it finds, or else it changes nothing and hands nothing
on. -/
theorem deliver_cases (fallback : Json → Json) (c : Client κ) (r : Json) :
    (∃ w, responseId? r = some w.id ∧ c.find? w.id = some w ∧
      c.deliver fallback r = (c.forget w.id, .ok (settle fallback w r))) ∨
    ((∀ w ∈ c.waiting, responseId? r ≠ some w.id) ∧ (c.deliver fallback r).1 = c ∧
      ∀ d, (c.deliver fallback r).2 ≠ .ok (some d)) := by
  cases r with
  | obj ms =>
    cases hid : Json.field ms "id" with
    | str id =>
      cases hfind : c.find? id with
      | some w =>
        obtain ⟨-, rfl⟩ := find?_some hfind
        exact .inl ⟨w, by simp [responseId?, hid], hfind, by simp [deliver, receive, hid, hfind]⟩
      | none =>
        refine .inr ⟨fun w hw => ?_, by simp [deliver, receive, hid, hfind],
          by simp [deliver, receive, hid, hfind]⟩
        have hne := List.find?_eq_none.mp hfind w hw
        simpa [responseId?, hid, eq_comm] using hne
    | _ =>
      -- an id of another type finds nothing, whether or not it could be a key
      right
      cases hempty : c.waiting.isEmpty <;>
        simp [deliver, receive, responseId?, hid, hempty, Json.hashable, Except.map]
  | _ => exact .inr (by simp [deliver, receive, responseId?])

theorem forget_eq (c : Client κ) (id : Text) :
    (c.forget id).waiting = c.waiting.filter fun w => !(some id == some w.id) := by
  refine List.filter_congr fun w _ => ?_
  simp [bne, BEq.comm]

theorem waiting_deliver (c : Client κ) (r : Json) :
    (c.deliver fallback r).1.waiting =
      c.waiting.filter fun w => !(responseId? r == some w.id) := by
  cases deliver_cases fallback c r with
  | inl h =>
    obtain ⟨w, hid, -, hdeliver⟩ := h
    rw [hdeliver, hid, forget_eq]
  | inr h =>
    obtain ⟨hnone, hsame, -⟩ := h
    rw [hsame, eq_comm, List.filter_eq_self]
    intro w hw
    simp [hnone w hw]

/-- The step lemma: an event adds its request, and then takes away what it answers or ends. -/
theorem waiting_react (c : Client κ) (e : Event κ) :
    (c.react fallback e).1.waiting =
      (c.waiting ++ e.made).filter fun w => !e.ends fallback w.id := by
  cases e with
  | request w taken =>
    cases taken with
    | true => simp [react, request, enter, Event.made, Event.ends, Event.isClose, Event.heard?]
    | false =>
      simp [react, request, enter, waiting_deliver, Event.made, Event.ends, Event.isClose,
        Event.heard?]
  | response r =>
    simp [react, waiting_deliver, Event.made, Event.ends, Event.isClose, Event.heard?]
  | close => simp [react, close, empty, Event.ends, Event.isClose]

theorem settle_eq_some {w : Waiting κ} {r : Json} {d : Delivery κ} :
    settle fallback w r = some d ↔ Serves fallback w r d := by
  constructor
  · intro h
    cases hr : isError r with
    | false =>
      simp only [settle, hr, Bool.false_eq_true, if_false, Option.some.injEq] at h
      exact h ▸ .result hr
    | true =>
      cases hf : isError (fallback w.message) with
      | false =>
        simp only [settle, hr, hf, if_true, Bool.false_eq_true, if_false, Option.some.injEq] at h
        exact h ▸ .retried hr hf
      | true =>
        simp only [settle, hr, hf, if_true, Option.map_eq_some_iff] at h
        obtain ⟨k, hk, rfl⟩ := h
        exact .failed hr hf hk
  · intro h
    cases h with
    | result hr => simp [settle, hr]
    | retried hr hf => simp [settle, hr, hf]
    | failed hr hf hk => simp [settle, hr, hf, hk]

theorem deliver_eq_some_iff {c : Client κ} (hids : (c.waiting.map Waiting.id).Nodup) {r : Json}
    {d : Delivery κ} : (c.deliver fallback r).2 = .ok (some d) ↔
      ∃ w ∈ c.waiting, responseId? r = some w.id ∧ Serves fallback w r d := by
  cases deliver_cases fallback c r with
  | inl h =>
    obtain ⟨w, hid, hfind, hdeliver⟩ := h
    have hw := (find?_some hfind).1
    rw [hdeliver, Except.ok.injEq, settle_eq_some]
    constructor
    · exact fun h => ⟨w, hw, hid, h⟩
    · intro h
      obtain ⟨v, hv, hvid, hs⟩ := h
      have hsame : v = w := List.inj_on_of_nodup_map hids hv hw (by simpa [hvid] using hid)
      exact hsame ▸ hs
  | inr h =>
    obtain ⟨hnone, -, hout⟩ := h
    constructor
    · exact fun h => absurd h (hout d)
    · intro h
      obtain ⟨w, hw, hid, -⟩ := h
      exact absurd hid (hnone w hw)

/-- What is handed on is for the one request that waited, or is just being made, and has the id of
the response. -/
theorem react_eq_some_iff {c : Client κ} {e : Event κ}
    (hids : ((c.waiting ++ e.made).map Waiting.id).Nodup) {d : Delivery κ} :
    (c.react fallback e).2 = .ok (some d) ↔ ∃ w r, w ∈ c.waiting ++ e.made ∧
      e.heard? fallback = some r ∧ responseId? r = some w.id ∧ Serves fallback w r d := by
  cases e with
  | request w taken =>
    cases taken with
    | true => simp [react, request, Event.heard?]
    | false =>
      rw [react, request, if_neg Bool.false_ne_true, deliver_eq_some_iff (c := c.enter w) hids]
      simp [enter, Event.made, Event.heard?]
  | response r =>
    simp only [Event.made, List.append_nil] at hids
    rw [react, deliver_eq_some_iff hids]
    simp [Event.made, Event.heard?]
  | close => simp [react, Event.heard?]

/-! ### Runs -/

theorem after_concat (es : List (Event κ)) (e : Event κ) :
    after fallback (es ++ [e]) = ((after fallback es).react fallback e).1 := by
  simp [after]

/-- The invariant of every run: what waits is what is outstanding. -/
theorem waiting_after (fallback : Json → Json) (es : List (Event κ)) :
    (after fallback es).waiting = outstanding fallback es := by
  induction es using List.reverseRecOn with
  | nil => rfl
  | append_singleton es e ih => rw [after_concat, waiting_react, ih, outstanding_concat]

theorem handed_eq_some {es : List (Event κ)} {e : Event κ} {d : Delivery κ} :
    handed fallback es e = some d ↔
      ((after fallback es).react fallback e).2 = .ok (some d) := by
  rw [handed]
  split <;> simp [*]

theorem requests_append (es fs : List (Event κ)) :
    requests (es ++ fs) = requests es ++ requests fs := by
  simp [requests]

theorem requests_concat (es : List (Event κ)) (e : Event κ) :
    requests (es ++ [e]) = requests es ++ e.made := by
  simp [requests]

section
variable {es before later : List (Event κ)} {e : Event κ}

theorem sublist_of_split (h : es = before ++ e :: later) :
    (outstanding fallback before ++ e.made).Sublist (requests es) := by
  have hsplit : requests es = requests before ++ e.made ++ requests later := by
    rw [h, List.append_cons, requests_append, requests_concat]
  rw [hsplit]
  exact ((outstanding_sublist before).append (.refl _)).trans (List.sublist_append_left _ _)

theorem handed_eq_some_iff (hids : ((requests es).map Waiting.id).Nodup)
    (h : es = before ++ e :: later) {d : Delivery κ} :
    handed fallback before e = some d ↔ ∃ w r, w ∈ outstanding fallback before ++ e.made ∧
      e.heard? fallback = some r ∧ responseId? r = some w.id ∧ Serves fallback w r d := by
  have hwaiting := waiting_after fallback before
  rw [handed_eq_some, react_eq_some_iff, hwaiting]
  rw [hwaiting]
  exact hids.sublist ((sublist_of_split h).map _)

/-- Once a request was answered or ended, it would have to be made again to be served. -/
theorem not_dispatches_of_ends (hids : ((requests es).map Waiting.id).Nodup) {d : Event κ}
    {between : List (Event κ)} {w : Waiting κ} (h : es = before ++ e :: between ++ d :: later)
    (hw : w ∈ requests (before ++ [e])) (he : e.ends fallback w.id = true) :
    ¬ Dispatches fallback (before ++ e :: between) d w := by
  intro hd
  obtain ⟨-, hdid, x, hx⟩ := hd
  obtain ⟨v, r, hv, hr, hvid, -⟩ := (handed_eq_some_iff hids h).mp hx
  have hsame : w.id = v.id := by simpa [hr, hvid, eq_comm] using hdid
  have hlater : v ∈ requests between ++ d.made := by
    rw [List.mem_append] at hv ⊢
    cases hv with
    | inl hv =>
      exact .inl (mem_requests_of_ends hv (hsame ▸ he))
    | inr hv => exact .inr hv
  have hsplit : requests es = requests (before ++ [e]) ++ (requests between ++ d.made) ++
      requests later := by
    rw [h, ← requests_concat, ← requests_append, ← requests_append]
    simp
  rw [hsplit, List.map_append, List.map_append] at hids
  have hdisjoint := List.disjoint_of_nodup_append (List.Nodup.of_append_left hids)
  exact hdisjoint (List.mem_map_of_mem hw) (hsame ▸ List.mem_map_of_mem hlater)

end

theorem react_response_of_unknown {es : List (Event κ)} {r : Json}
    (h : ∀ w ∈ outstanding fallback es, responseId? r ≠ some w.id) :
    after fallback (es ++ [.response r]) = after fallback es ∧
      handed fallback es (.response r) = none := by
  rw [← waiting_after] at h
  cases deliver_cases fallback (after fallback es) r with
  | inl hd =>
    obtain ⟨w, hid, hfind, -⟩ := hd
    exact absurd hid (h w (find?_some hfind).1)
  | inr hd =>
    obtain ⟨-, hsame, hout⟩ := hd
    refine ⟨by rw [after_concat, react, hsame], ?_⟩
    rw [Option.eq_none_iff_forall_ne_some]
    exact fun d hd => hout d (handed_eq_some.mp hd)

/-- Every request of a run is served at most once, by the response with its id or by what the
fallback makes of its message; a response without a waiting request changes nothing, as many
requests are pending as are outstanding, and after an end none of those before it is served. -/
theorem requests_served (fallback : Json → Json) (es : List (Event κ))
    (hids : ((requests es).map Waiting.id).Nodup) :
    (∀ before e later d, es = before ++ e :: later →
      (handed fallback before e = some d ↔ ∃ w r, w ∈ outstanding fallback before ++ e.made ∧
        e.heard? fallback = some r ∧ responseId? r = some w.id ∧ Serves fallback w r d)) ∧
    (∀ before e between d later w, es = before ++ e :: between ++ d :: later →
      Dispatches fallback before e w → ¬ Dispatches fallback (before ++ e :: between) d w) ∧
    (∀ before r later, es = before ++ .response r :: later →
      (∀ w ∈ outstanding fallback before, responseId? r ≠ some w.id) →
        after fallback (before ++ [.response r]) = after fallback before ∧
          handed fallback before (.response r) = none) ∧
    (after fallback es).pendingCount = (outstanding fallback es).length ∧
    ∀ before between e later w, es = before ++ .close :: between ++ e :: later →
      w ∈ requests before → ¬ Dispatches fallback (before ++ .close :: between) e w := by
  refine ⟨fun before e later d h => handed_eq_some_iff hids h, ?_,
    fun before r later _ => react_response_of_unknown, ?_, ?_⟩
  · intro before e between d later w h he
    obtain ⟨hw, hid, -⟩ := he
    exact not_dispatches_of_ends hids h hw (by simp [Event.ends, hid])
  · rw [pendingCount, waiting_after]
  · intro before between e later w h hw
    have hmade : w ∈ requests (before ++ [.close]) := by
      rw [requests_concat]
      exact List.mem_append_left _ hw
    exact not_dispatches_of_ends hids h hmade rfl

/-- Two requests, the second of which is answered twice before the end. -/
theorem requests_served_second :
    let engine (message : Json) : Json := (respond message).toJson
    let first : Waiting Nat := ⟨"1", .null, 1, none⟩
    let second : Waiting Nat := ⟨"2", .null, 2, none⟩
    let answer (id : Text) : Json := .obj [("payload", .int 5), ("id", .str id)]
    let es : List (Event Nat) := [.request first true, .request second true,
      .response (answer "2"), .response (answer "2"), .close, .response (answer "1")]
    ((requests es).map Waiting.id).Nodup ∧
      handed engine (es.take 2) (.response (answer "2")) = some (.result 2 (.int 5)) ∧
      ¬ Dispatches engine (es.take 3) (.response (answer "2")) second ∧
      ¬ Dispatches engine (es.take 5) (.response (answer "1")) first := by
  intro engine first second answer es
  have hids : ((requests es).map Waiting.id).Nodup := by decide
  obtain ⟨hhanded, honce, -, -, hclosed⟩ := requests_served engine es hids
  have hanswered : handed engine (es.take 2) (.response (answer "2")) = some (.result 2 (.int 5)) :=
    (hhanded _ _ _ _ rfl).mpr
      ⟨second, answer "2", List.mem_cons_of_mem _ (.head _), rfl, by decide, .result (by decide)⟩
  have hdispatches : Dispatches engine (es.take 2) (.response (answer "2")) second :=
    ⟨List.mem_cons_of_mem _ (.head _), by decide, _, hanswered⟩
  exact ⟨hids, hanswered, honce (es.take 2) _ [] _ (es.drop 4) _ rfl hdispatches,
    hclosed (es.take 4) [] _ [] _ rfl (.head _)⟩

end JsonDesk.Client
