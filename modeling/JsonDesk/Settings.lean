import JsonDesk.Palette
import JsonDesk.Json.Decode

set_option autoImplicit false

namespace JsonDesk

structure Settings where
  indentWidth : Int
  theme : Theme
  fontSize : Int
  feedbackDelay : Int
deriving DecidableEq

namespace Settings

def default : Settings := ⟨2, .dark, 11, 300⟩

instance : Inhabited Settings := ⟨default⟩

/-- A number within bounds, and otherwise the default; truth values are no numbers here. -/
def bounded (v : Json) (low high other : Int) : Except Failure Int :=
  let check (n : Int) : Int := if low ≤ n ∧ n ≤ high then n else other
  match v with
  | .int i => .ok (check i)
  | .float d => (Json.float d).toInt.map check
  | _ => .ok other

def ofJson (v : Json) : Except Failure Settings :=
  match v with
  | .obj ms => do
    let indentWidth ← bounded (Json.field ms "indent_width") 1 8 default.indentWidth
    let fontSize ← bounded (Json.field ms "font_size") 6 32 default.fontSize
    let feedbackDelay ←
      bounded (Json.field ms "live_feedback_delay_ms") 0 5000 default.feedbackDelay
    let theme := (Theme.ofName? (Json.field ms "theme").orEmpty).getD default.theme
    return ⟨indentWidth, theme, fontSize, feedbackDelay⟩
  | _ => .ok default

def toMembers (s : Settings) : Members :=
  [("indent_width", .int s.indentWidth), ("theme", .str s.theme.name),
    ("font_size", .int s.fontSize), ("live_feedback_delay_ms", .int s.feedbackDelay)]

/-- Settings as given fields change the default ones; the values may be anything. -/
def ofFields (given : Members) : Except Failure Members := do
  given.allKnown "UserSettings" default.toMembers.names
  return default.toMembers.map fun m => (m.1, (given.get? m.1).getD m.2)

def fileText (ms : Members) : Text :=
  (Json.obj ms).write (Json.documentStyle (.indented 2) true)

end Settings

/-- The value in the text of a settings or session file, and null if it cannot be read. -/
def Json.ofFileText (t : Text) : Json :=
  match decode .lenient t with
  | .ok v => v
  | .error _ => .null

end JsonDesk
