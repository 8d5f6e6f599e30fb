import JsonDesk.Request

/-!
The client of the engine.  It remembers every request that has had no response yet, together with
what is to be done then; a response finds its request by its id alone.  When the engine cannot
take a request, or answers it with an error, the request is served by the fallback instead.
-/

set_option autoImplicit false

namespace JsonDesk

/-- A request that waits for its response: what to do with a result, and with a failure if anything
is to be done then. -/
structure Waiting (κ : Type) where
  id : Text
  message : Json
  onResult : κ
  onError : Option κ

/-- Something to do: a result or the detail of a failure is handed on. -/
inductive Delivery (κ : Type)
  | result (target : κ) (payload : Json)
  | failure (target : κ) (detail : Text)

structure Client (κ : Type) where
  waiting : List (Waiting κ)

namespace Client

variable {κ : Type}

def empty : Client κ := ⟨[]⟩

def pendingCount (c : Client κ) : Nat := c.waiting.length

def message (type payload : Json) (id : Text) : Json :=
  .obj [("type", type), ("payload", payload), ("id", .str id)]

def enter (c : Client κ) (w : Waiting κ) : Client κ := ⟨c.waiting ++ [w]⟩

def find? (c : Client κ) (id : Text) : Option (Waiting κ) := c.waiting.find? fun w => w.id = id

def forget (c : Client κ) (id : Text) : Client κ := ⟨c.waiting.filter fun w => w.id != id⟩

def isError (response : Json) : Bool :=
  match response with
  | .obj ms =>
    match Json.field ms "type" with
    | .str t => t = Response.errorType
    | _ => false
  | _ => false

def payloadOf (response : Json) : Json :=
  match response with
  | .obj ms => Json.field ms "payload"
  | _ => .null

/-- What a response means for the request that it answers.  An error is not final: the fallback has
the last word. -/
def settle (fallback : Json → Json) (w : Waiting κ) (response : Json) : Option (Delivery κ) :=
  let last := if isError response then fallback w.message else response
  if isError last then
    w.onError.map fun k => .failure k (payloadOf last).orEmpty
  else some (.result w.onResult (payloadOf last))

/-- Takes a response.  One that answers no waiting request changes nothing; an id that cannot be a
key is only noticed while there are requests to look it up in. -/
def receive (fallback : Json → Json) (c : Client κ) (response : Json) :
    Except Failure (Client κ × Option (Delivery κ)) :=
  match response with
  | .obj ms =>
    match Json.field ms "id" with
    | .str id =>
      match c.find? id with
      | some w => .ok (c.forget id, settle fallback w response)
      | none => .ok (c, none)
    | v => if c.waiting.isEmpty then .ok (c, none) else v.hashable.map fun _ => (c, none)
  | _ => .ok (c, none)

/-- Takes a response; a failure leaves the client as it is. -/
def deliver (fallback : Json → Json) (c : Client κ) (response : Json) :
    Client κ × Except Failure (Option (Delivery κ)) :=
  match c.receive fallback response with
  | .ok (c, delivery) => (c, .ok delivery)
  | .error e => (c, .error e)

/-- Makes a request.  One that the engine does not take is served by the fallback, and the response
is taken at once. -/
def request (fallback : Json → Json) (c : Client κ) (w : Waiting κ) (taken : Bool) :
    Client κ × Except Failure (Option (Delivery κ)) :=
  if taken then (c.enter w, .ok none) else (c.enter w).deliver fallback (fallback w.message)

def close (_ : Client κ) : Client κ := empty

def reshapePayload (text : Json) (indent : Json) : Json :=
  if indent.isNull then text else .obj [("text", text), ("indent", indent)]

end Client

end JsonDesk
