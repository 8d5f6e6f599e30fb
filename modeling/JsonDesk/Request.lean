import JsonDesk.Report

/-!
Requests to the engine and their responses.  A request names an operation and carries a payload; a
request that cannot be served is answered with the reason.
-/

set_option autoImplicit false

namespace JsonDesk

inductive Operation
  | validate | stats | compare | format | minify | sortKeys
deriving DecidableEq

namespace Operation

def all : List Operation := [validate, stats, compare, format, minify, sortKeys]

def name : Operation → Text
  | validate => "VALIDATE"
  | stats => "STATS"
  | compare => "COMPARE"
  | format => "FORMAT"
  | minify => "MINIFY"
  | sortKeys => "SORT_KEYS"

def ofName? (t : Text) : Option Operation := all.find? fun op => op.name = t

theorem ofName?_name (op : Operation) : ofName? op.name = some op := by
  cases op <;> decide

def resultType (op : Operation) : Text := op.name ++ "_RESULT"

/-- The document of a payload: the payload itself, or the text of a record. -/
def documentOf (payload : Json) : Except Failure Text :=
  let text : Json := match payload with
    | .null => .str []
    | .obj ms => Json.field ms "text"
    | v => v
  match text with
  | .str t => .ok t
  | v => .error (.wrongType ("Expected document text, got " ++ v.typeName))

def indentOf (payload : Json) : Except Failure Int :=
  match payload with
  | .obj ms =>
    match Json.field ms "indent" with
    | .null => .ok Json.defaultIndent
    | v => v.toInt
  | _ => .ok Json.defaultIndent

def serve [StackRoom] (op : Operation) (payload : Json) : Except Failure Json :=
  match op with
  | validate => do return .obj (Report.ofText (← documentOf payload)).toMembers
  | stats => do return .obj (Stats.ofText (← documentOf payload)).toMembers
  | compare =>
    match payload with
    | .obj ms => do
      let left ← documentOf (Json.field ms "left")
      let right ← documentOf (Json.field ms "right")
      return .arr ((JsonDesk.compare left right).map fun d =>
        .obj (DifferenceNote.ofDifference [] d).toMembers)
    | _ => .error (.wrongType "COMPARE expects \x7bleft, right\x7d")
  | format => do
    let text ← documentOf payload
    return .str (← text.format (← indentOf payload))
  | minify => do return .str (← documentOf payload).minify
  | sortKeys => do
    let text ← documentOf payload
    return .str (← text.sortKeys (← indentOf payload))

end Operation

structure Response where
  type : Text
  payload : Json
  id : Json

namespace Response

def errorType : Text := "ERROR"

def error (detail : Text) (id : Json) : Response := ⟨errorType, .str detail, id⟩

def toJson (r : Response) : Json :=
  .obj [("type", .str r.type), ("payload", r.payload), ("id", r.id)]

end Response

def requestedType : Json → Except Failure Json
  | .obj ms =>
    match Members.get? ms "type" with
    | some v => .ok v
    | none => .error (.missingKey (.str "type"))
  | .arr _ => .error (.listIndex "str")
  | .str _ => .error (.stringIndex "str")
  | v => .error (.notSubscriptable v.typeName)

def respond [StackRoom] (message : Json) : Response :=
  let id := match message with
    | .obj ms => Json.field ms "id"
    | _ => .null
  let served : Except Failure Response := do
    let type ← requestedType message
    type.hashable
    let payload := match message with
      | .obj ms => Json.field ms "payload"
      | _ => .null
    match type with
    | .str t =>
      match Operation.ofName? t with
      | some op => return ⟨op.resultType, ← op.serve payload, id⟩
      | none => return .error ("Unknown request type: " ++ t) id
    | v => return .error ("Unknown request type: " ++ v.display) id
  match served with
  | .ok r => r
  | .error e => .error e.message id

end JsonDesk
