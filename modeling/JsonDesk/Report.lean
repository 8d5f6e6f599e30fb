import JsonDesk.Compare
import JsonDesk.Stats

set_option autoImplicit false

namespace JsonDesk

namespace Json

def present (ms : Members) : Members := ms.filter fun m => !m.2.isNull

def ofText (t : Text) : Json := .str t

def ofNat (n : Nat) : Json := .int n

def ofNat? (n : Option Nat) : Json := (n.map ofNat).getD .null

end Json

structure Remark where
  line : Json
  column : Json
  suggestion : Json

namespace Remark

def ofDiagnosis (d : Diagnosis) : Remark :=
  ⟨.ofNat? d.place.line?, .ofNat? d.place.column?, .str d.hint.text⟩

def ofFields (ms : Members) : Except Failure Remark := do
  ms.allKnown "Diagnosis" ["line", "column", "suggestion"]
  return ⟨Json.field ms "line", Json.field ms "column", Json.field ms "suggestion"⟩

def isEmpty (r : Remark) : Bool := r.line.isNull && r.column.isNull && r.suggestion.isNull

def toMembers (r : Remark) : Members :=
  Json.present [("line", r.line), ("column", r.column), ("suggestion", r.suggestion)]

def locationText (r : Remark) : Text :=
  if r.line.isNull then []
  else if r.column.isNull then "Line " ++ r.line.display
  else "Line " ++ r.line.display ++ ", Col " ++ r.column.display

end Remark

structure ErrorNote where
  message : Text
  remark : Remark

namespace ErrorNote

def ofMembers (ms : Members) : ErrorNote :=
  ⟨(Json.field ms "message").orEmpty,
    ⟨Json.field ms "line", Json.field ms "column", Json.field ms "suggestion"⟩⟩

def ofJson (v : Json) : Except Failure ErrorNote := v.record.map ofMembers

def toMembers (e : ErrorNote) : Members := ("message", .str e.message) :: e.remark.toMembers

end ErrorNote

structure Report where
  valid : Bool
  error : Option ErrorNote
  value : Json

namespace Report

def ofVerdict : Verdict → Report
  | .valid v => ⟨true, none, v⟩
  | .invalid message d => ⟨false, some ⟨message, .ofDiagnosis d⟩, .null⟩

def ofText [StackRoom] (t : Text) : Report := ofVerdict (validate t)

theorem valid_ofText [StackRoom] (t : Text) : (ofText t).valid = (validate t).isValid := by
  unfold ofText
  cases validate t <;> rfl

/-- An error that is not a record counts as none. -/
def ofJson (v : Json) : Except Failure Report := do
  let ms ← v.record
  let error := match Json.field ms "error" with
    | .obj es => some (ErrorNote.ofMembers es)
    | _ => none
  return ⟨(Json.field ms "valid").truthy, error, Json.field ms "parsed"⟩

/-- A value is carried along for valid documents only. -/
def toMembers (r : Report) : Members :=
  [(Text.ofString "valid", .bool r.valid)]
    ++ (r.error.map fun e => (Text.ofString "error", Json.obj e.toMembers)).toList
    ++ if r.valid then [(Text.ofString "parsed", r.value)] else []

def title (r : Report) : Text := if r.valid then "Valid JSON" else "Invalid JSON"

end Report

structure Overlay where
  title : Text
  message : Text
  location : Text
  suggestion : Json
  line : Json
  column : Json

namespace Overlay

def ofReport? (r : Report) : Option Overlay :=
  if r.valid then none
  else r.error.map fun e =>
    let suggestion := e.remark.suggestion
    ⟨r.title, e.message, e.remark.locationText,
      if suggestion.truthy then suggestion else .str Hint.lookAround.text,
      e.remark.line, e.remark.column⟩

def toMembers (o : Overlay) : Members :=
  [("title", .str o.title), ("message", .str o.message), ("location", .str o.location),
    ("suggestion", o.suggestion), ("line", o.line), ("column", o.column)]

/-- The marks around a line: from its start to the end of the line. -/
def lineSpan (n : Int) : Text × Text :=
  (Text.ofInt n ++ ".0", Text.ofInt n ++ ".0 lineend")

/-- The line to mark in a text of so many lines, clamped to the text; there is none if no line is
named or there are no lines. -/
def markedLine (line count : Json) : Except Failure (Option Int) :=
  if !line.truthy then .ok none
  else match count.numeric? with
    | none => .error (.notComparable "<=" count.typeName "int")
    | some c =>
      let nothing := match c with
        | .int i => decide (i ≤ 0)
        | .float d => d.notPositive
      if nothing then .ok none
      else do
        let n ← line.toInt
        let m ← count.toInt
        return some (min (max n 1) m)

end Overlay

/-- A difference as a record: its values are absent or present, and null is a value. -/
structure DifferenceNote where
  type : Text
  path : Text
  left : Option Json
  right : Option Json

namespace DifferenceNote

def ofDifference (base : Text) (d : Difference) : DifferenceNote :=
  let path := d.path base
  match d.change with
  | .added right => ⟨"added", path, none, some right⟩
  | .removed left => ⟨"removed", path, some left, none⟩
  | .changed left right => ⟨"changed", path, some left, some right⟩

def ofJson (v : Json) : Except Failure DifferenceNote := do
  let ms ← v.record
  return ⟨(Json.field ms "type").orEmpty, (Json.field ms "path").orEmpty,
    Members.get? ms "leftValue", Members.get? ms "rightValue"⟩

def toMembers (n : DifferenceNote) : Members :=
  [(Text.ofString "type", .str n.type), (Text.ofString "path", .str n.path)]
    ++ (n.left.map fun v => (Text.ofString "leftValue", v)).toList
    ++ (n.right.map fun v => (Text.ofString "rightValue", v)).toList

def valueText (v : Option Json) : Text :=
  (v.getD .null).write (Json.documentStyle .spaced false)

def row (n : DifferenceNote) : Text :=
  let path := if n.path = [] then Text.ofString "(root)" else n.path
  if n.type = Text.ofString "added" then path ++ ": + " ++ valueText n.right
  else if n.type = Text.ofString "removed" then path ++ ": - " ++ valueText n.left
  else if n.type = Text.ofString "changed" then
    path ++ ": " ++ valueText n.left ++ " -> " ++ valueText n.right
  else path ++ ":"

def summary (count : Nat) : Text :=
  if count = 0 then "No differences found"
  else if count = 1 then "1 difference found"
  else Text.ofNat count ++ " differences found"

end DifferenceNote

namespace Stats

def ofJson (v : Json) : Except Failure Stats := do
  let ms ← v.record
  let number (name : Text) : Except Failure Int :=
    let n := Json.field ms name
    if n.truthy then n.toInt else .ok 0
  return ⟨← number "keys", ← number "depth", (Json.field ms "size").orText "0 B"⟩

def toMembers (s : Stats) : Members :=
  [("keys", .int s.keys), ("depth", .int s.depth), ("size", .str s.size)]

end Stats

end JsonDesk
