import JsonDesk.Disk
import JsonDesk.Text.Encoding

/-!
Reading a document from a disk and saving one.  A document is saved by way of a temporary file
beside it, which takes the place of the old document in one step; whatever goes wrong, the old
document stays and the temporary file goes.
-/

set_option autoImplicit false

namespace JsonDesk

/-- What is done to a disk; the disk that was reached stays when it fails. -/
abbrev DiskM := ExceptT Failure (StateM Disk)

def workingDirectory : Text := "/"

inductive SaveStep
  | create | write | replace
deriving DecidableEq

namespace Disk

/-- An operation that leaves the disk alone when it is refused. -/
def act (f : Disk → Except Failure Disk) : DiskM Unit := do
  match f (← get) with
  | .ok d => set d
  | .error e => throw e

/-- An operation that may have done a part of its work when it is refused. -/
def change (f : Disk → Except Failure Unit × Disk) : DiskM Unit := ExceptT.mk f

/-- A path from a loosely typed value; only texts are paths. -/
def pathOf : Json → Except Failure Text
  | .str p => .ok p
  | v => .error (.wrongType ("stat: path should be string, bytes, os.PathLike or integer, not "
      ++ v.typeName))

/-- A document as text; a byte order mark is not part of it. -/
def loadText (d : Disk) (path : Text) : Except Failure Text :=
  if path = [] then .error (.document .noFile [])
  else
    let name := Path.base path
    match d.read path with
    | .error (.system ..) => .error (.document (.unreadable name) path)
    | .error e => .error e
    | .ok bytes =>
      match Text.ofUtf8? (Text.dropMark bytes) with
      | some t => .ok t
      | none => .error (.document (.notUtf8 name) path)

def tempName (k : Nat) : Text := ".jsonsmith-" ++ Text.ofNat k ++ ".tmp"

/-- A path in a directory at which nothing is. -/
def tempPath (d : Disk) (directory : Text) : Text :=
  let path (k : Nat) : Text := Path.join directory (tempName k)
  ((List.range (d.entries.length + 1)).map path).find? (fun p => (d.stat? p).isNone)
    |>.getD (path d.entries.length)

/-- Refusals of the file system are told as a failure to write. -/
def asUnwritable (path : Text) : Failure → Failure
  | .system .. => .document (.unwritable (Path.base path)) path
  | e => e

def unencodable (path : Text) (encoding : Json) : Failure :=
  .document (.unencodable (Path.base path) encoding.display) path

/-- The name in a loosely typed choice of an encoding; null chooses that of the surroundings. -/
def encodingName : Json → Except Failure Text
  | .null => .ok Encoding.surroundings
  | .str name => .ok name
  | v => .error (.wrongType ("open() argument 'encoding' must be str or None, not " ++ v.typeName))

def encoded (path payload : Text) (encoding : Json) : Except Failure (List UInt8) := do
  let name ← encodingName encoding
  if name.any CodePoint.isSurrogate then throw (unencodable path encoding)
  if name.any (·.val = 0) then throw .nullInName
  match Encoding.find? name with
  | none => throw (.unknownEncoding name)
  | some .transformation => throw (.notTextEncoding name)
  | some (.encoding e) =>
    match e.encode? payload with
    | none => throw (unencodable path encoding)
    | some bytes => return bytes

/-- Saves a text under a path; `fault` is the step at which the disk fails by itself. -/
def saveText (fault : Option SaveStep) (path payload : Text) (encoding : Json) : DiskM Unit := do
  if path = [] then throw (.document .noDestination [])
  let unwritable : Failure := .document (.unwritable (Path.base path)) path
  let temp := tempPath (← get) (Path.directory (Path.absolute workingDirectory path))
  if fault = some .create then throw unwritable
  act fun d => (d.write temp []).mapError (asUnwritable path)
  let giveUp (e : Failure) : DiskM Unit := do
    act fun d => .ok ((d.remove temp).toOption.getD d)
    throw e
  match encoded path payload encoding with
  | .error e => giveUp e
  | .ok bytes =>
    if fault = some .write then giveUp unwritable
    act fun d => (d.write temp bytes).mapError (asUnwritable path)
    if fault = some .replace then giveUp unwritable
    match (← get).rename temp path with
    | .ok d => set d
    | .error (.unencodablePath ..) => giveUp (unencodable path encoding)
    | .error e => giveUp (asUnwritable path e)

end Disk

def documentEncoding : Json := .str "utf-8"

end JsonDesk
