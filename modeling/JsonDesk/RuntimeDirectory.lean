import JsonDesk.Json.Convert
import JsonDesk.Disk

set_option autoImplicit false

namespace JsonDesk

/-- The surroundings of a run: the environment variables, the home directory and the working
directory, which may be gone. -/
structure Surroundings where
  environment : Members
  home : Text
  working : Option Text

namespace RuntimeDirectory

def overrideVariable : Text := "JSONSMITH_RUNTIME_DIR"

def defaultName : Text := "JsonSmith"

def absolute (s : Surroundings) (p : Text) : Except Failure Text :=
  match s.working with
  | some w => .ok (Path.absolute w p)
  | none =>
    if Path.isAbsolute p then .ok (Path.normal p) else .error (.system .missing none)

/-- The home directory as the tilde stands for it, without slashes at its end. -/
def home (s : Surroundings) : Text :=
  match Text.dropRightWhile (· = CodePoint.ofChar '/') s.home with
  | [] => "/"
  | h => h

/-- The text of a variable, without white space around it; one that is not set is empty. -/
def valueOf (s : Surroundings) (name : Text) : Text :=
  match Members.get? s.environment name with
  | some v => v.display.strip
  | none => []

/-- A directory for application data, as far as it lies below the home directory. -/
def underHome (s : Surroundings) (base : Text) : Except Failure Text := do
  let home ← match absolute s (home s) with
    | .ok h => .ok h
    | .error _ => absolute s []
  match absolute s base with
  | .error _ => return home
  | .ok p => return if Path.isUnder home p then p else home

def userState (s : Surroundings) : Text :=
  Path.join (Path.join (home s) ".local") "state"

def path (s : Surroundings) (platform name : Text) : Except Failure Text := do
  let named := ((Members.get? s.environment overrideVariable).getD .null).orEmpty.strip
  if named ≠ [] then absolute s named
  else if platform = Text.ofString "win32" then
    let localData := valueOf s "LOCALAPPDATA"
    let base ← underHome s (if localData = [] then valueOf s "APPDATA" else localData)
    return Path.join base name
  else
    let state := valueOf s "XDG_STATE_HOME"
    return Path.join (if state = [] then userState s else state) name

/-- Makes the directory at a path; if it cannot be made, the working directory stands in. -/
def make (d : Disk) (working target : Text) : Text × Disk :=
  match d.makeDirectories (if Path.isAbsolute target then target else Path.join working target) with
  | (.ok (), d) => (target, d)
  | (.error _, d) => (working, d)

end RuntimeDirectory

end JsonDesk
