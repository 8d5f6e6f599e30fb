import JsonDesk.Diagnosis
import JsonDesk.Json.Convert

set_option autoImplicit false

namespace JsonDesk

namespace Text

def unterminatedPhrases : List Text :=
  ["unterminated", "unexpected end of json", "invalid control character"]

/-- Whether a message is about a string that does not end; case does not matter. -/
def tellsUnterminated (message : Text) : Bool :=
  let lowered := message.lower
  unterminatedPhrases.any lowered.contains

def messageOpenings : List Text := ["JSON.parse: ", "JSON Parse error: "]

def withoutOpenings (message : Text) : Text :=
  messageOpenings.foldl (fun t opening => t.replaceFirst opening []) message

def decimals? (t : Text) : Option (Text × Text) :=
  match t.takeWhile CodePoint.isDecimal with
  | [] => none
  | ds => some (ds, t.dropWhile CodePoint.isDecimal)

def lineColumn? (t : Text) : Option (Text × Text) := do
  let (l, t) ← decimals? (← after? "line " t)
  let (c, _) ← decimals? (← after? " column " t)
  return (l, c)

def position? (t : Text) : Option Text := do
  let (p, _) ← decimals? (← after? "position " t)
  return p

def search {α : Type} (find? : Text → Option α) : Text → Option α
  | [] => find? []
  | c :: t => (find? (c :: t)).orElse fun _ => search find? t

end Text

/-- The place that a message names, by line and column or else by an offset. -/
def Diagnosis.ofMessage (text message : Text) : Except Failure Diagnosis :=
  match message.search Text.lineColumn? with
  | some (l, c) => do
    let line ← l.toInt
    let column ← c.toInt
    return ⟨.point ⟨line.toNat, column.toNat⟩, .lookHere⟩
  | none =>
    match message.search Text.position? with
    | some p => do
      let offset ← p.toInt
      return ⟨.point (text.positionAt offset), .lookHere⟩
    | none => .ok ⟨.unknown, .lookAround⟩

end JsonDesk
