import JsonDesk.Json.Convert

set_option autoImplicit false

namespace JsonDesk

/-- How important a record is.  A truth value counts as a number, but is shown as itself. -/
inductive LogLevel
  | number (n : Int)
  | truth (b : Bool)
deriving DecidableEq

namespace LogLevel

def info : LogLevel := .number 20

def debug : LogLevel := .number 10

def toJson : LogLevel → Json
  | number n => .int n
  | truth b => .bool b

def value : LogLevel → Int
  | number n => n
  | truth b => if b then 1 else 0

/-- The least value of what has no level of its own. -/
def outer : Int := 30

def named : List (Text × Int) :=
  [("CRITICAL", 50), ("FATAL", 50), ("ERROR", 40), ("WARN", 30), ("WARNING", 30), ("INFO", 20),
    ("DEBUG", 10), ("NOTSET", 0)]

def ofJson : Json → Except Failure LogLevel
  | .int i => .ok (.number i)
  | .bool b => .ok (.truth b)
  | .str t =>
    match named.lookup t with
    | some i => .ok (.number i)
    | none => .error (.unknownLevel t)
  | v => .error (.wrongType ("Level not an integer or a valid string: " ++ v.display))

def text (level : LogLevel) : Text :=
  if level.value = 50 then "CRITICAL"
  else if level.value = 40 then "ERROR"
  else if level.value = 30 then "WARNING"
  else if level.value = 20 then "INFO"
  else if level.value = 10 then "DEBUG"
  else if level.value = 0 then "NOTSET"
  else "Level " ++ level.toJson.display

end LogLevel

structure Logger where
  level : LogLevel
  handler : Option LogLevel
  stream : Text
deriving DecidableEq

namespace Logger

/-- The name of the logger; loggers below it have names that continue it after a point. -/
def name : Text := "jsonsmith"

def fresh : Logger := ⟨.number 0, none, []⟩

def configure (l : Logger) (level : LogLevel) : Logger :=
  { l with level := level, handler := some level }

def timeMark : Text := "<time>"

/-- Writes a line if the record comes from the logger or one below it, and its level is high
enough.  Levels that are not positive are never high enough. -/
def log (l : Logger) (source : Text) (level : LogLevel) (message : Text) : Logger :=
  let ours := source = name ∨ source.startsWith (name ++ ".")
  let least := if l.level.value = 0 then LogLevel.outer else l.level.value
  match l.handler with
  | some h =>
    if ours ∧ 0 < level.value ∧ least ≤ level.value ∧ h.value ≤ level.value then
      { l with stream := l.stream ++ timeMark ++ " " ++ level.text ++ " " ++ source ++ ": "
          ++ message ++ "\n" }
    else l
  | none => l

/-- A record needs a value as its level; a name will not do. -/
def recordLevel : Json → Except Failure LogLevel
  | .int i => .ok (.number i)
  | .bool b => .ok (.truth b)
  | _ => .error (.wrongType "level must be an integer")

end Logger

end JsonDesk
