import JsonDesk.Disk.Save
import JsonDesk.Session

/-!
Settings and sessions on disk.  Reading is tolerant: a file that is missing, is not text or is not
a document counts as null.  Writing tells whether it succeeded.
-/

set_option autoImplicit false

namespace JsonDesk.Disk

def loadValue (d : Disk) (path : Text) : Json :=
  if d.isFile path then
    match d.read path with
    | .ok bytes =>
      match Text.ofUtf8? (Text.dropMark bytes) with
      | some t => Json.ofFileText t
      | none => .null
    | .error _ => .null
  else .null

/-- Saves a text; tolerable failures become false. -/
def trySave (path payload : Text) (fault : Option SaveStep := none) : DiskM Bool :=
  tryCatch
    (do saveText fault path payload documentEncoding; return true)
    fun e => if e.kind.tolerable then return false else throw e

def loadSettings (d : Disk) (path : Text) : Except Failure Settings :=
  Settings.ofJson (d.loadValue path)

def saveSettings (path : Text) (settings : Settings) (fault : Option SaveStep := none) :
    DiskM Bool :=
  trySave path (Settings.fileText settings.toMembers) fault

def loadSession (d : Disk) (fresh : Nat → Text) (path : Text) : Except Failure Session :=
  Session.ofJson fresh (d.loadValue path)

def saveSession (path : Text) (session : Session) (fault : Option SaveStep := none) : DiskM Bool :=
  trySave path session.fileText fault

end JsonDesk.Disk
