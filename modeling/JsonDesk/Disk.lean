import JsonDesk.Failure
import JsonDesk.Path
import JsonDesk.Text.Utf8

/-!
A disk: files and directories at locations, which are lists of names from the root on.  Paths are
followed name by name, so that a name behind a file or behind nothing is refused; every operation
either gives a disk or tells what the file system has against it.
-/

set_option autoImplicit false

namespace JsonDesk

inductive Node
  | file (bytes : List UInt8)
  | directory
deriving DecidableEq

abbrev Location := List Text

structure Disk where
  entries : List (Location × Node)

namespace Disk

def empty : Disk := ⟨[]⟩

def entryAt? (l : Location) : List (Location × Node) → Option Node
  | [] => none
  | e :: es => if e.1 = l then some e.2 else entryAt? l es

/-- What is at a location; the root is always a directory. -/
def node? (d : Disk) (l : Location) : Option Node :=
  if l = [] then some .directory else entryAt? l d.entries

def putEntry (l : Location) (n : Node) : List (Location × Node) → List (Location × Node)
  | [] => [(l, n)]
  | e :: es => if e.1 = l then (l, n) :: es else e :: putEntry l n es

def put (d : Disk) (l : Location) (n : Node) : Disk := ⟨putEntry l n d.entries⟩

def erase (d : Disk) (l : Location) : Disk := ⟨d.entries.filter fun e => e.1 != l⟩

theorem entryAt?_putEntry (l m : Location) (n : Node) (es : List (Location × Node)) :
    entryAt? m (putEntry l n es) = if l = m then some n else entryAt? m es := by
  induction es with
  | nil => rfl
  | cons e es ih =>
    by_cases hk : e.1 = l <;> by_cases h : l = m <;> simp_all [putEntry, entryAt?]

theorem entryAt?_filter_ne (l m : Location) (es : List (Location × Node)) :
    entryAt? m (es.filter fun e => e.1 != l) = if l = m then none else entryAt? m es := by
  induction es with
  | nil => simp [entryAt?]
  | cons e es ih =>
    by_cases hk : e.1 = l <;> by_cases h : l = m <;> simp_all [entryAt?]

theorem node?_put (d : Disk) {l : Location} (hl : l ≠ []) (n : Node) (m : Location) :
    (d.put l n).node? m = if l = m then some n else d.node? m := by
  by_cases h : m = []
  · subst h; simp [node?, hl]
  · simp only [node?, h, if_false, put, entryAt?_putEntry]

theorem node?_erase (d : Disk) {l : Location} (hl : l ≠ []) (m : Location) :
    (d.erase l).node? m = if l = m then none else d.node? m := by
  by_cases h : m = []
  · subst h; simp [node?, hl]
  · simp only [node?, h, if_false, erase, entryAt?_filter_ne]

def maxName : Nat := 255

/-- Follows names from a location on.  Each name has to be behind a directory. -/
def follow (d : Disk) : Location → List Text → Except SystemProblem Location
  | here, [] => .ok here
  | here, name :: names =>
    match d.node? here with
    | none => .error .missing
    | some (.file _) => .error .notDirectory
    | some .directory =>
      if maxName < name.utf8Length then .error .nameTooLong
      else if name = Text.ofString "." then follow d here names
      else if name = Text.ofString ".." then follow d here.dropLast names
      else follow d (here ++ [name]) names

def maxPath : Nat := 4095

def names (p : Text) : List Text := (Path.pieces p).filter (· ≠ [])

/-- The names to follow for a path; a slash at the end asks for a directory. -/
def steps (p : Text) : List Text :=
  match names p with
  | [] => []
  | names => if p.endsWith "/" then names ++ [Text.ofString "."] else names

/-- Surrogates that stand for octets which are not text. -/
def isOctetSurrogate (c : CodePoint) : Bool := decide (0xDC80 ≤ c.val ∧ c.val ≤ 0xDCFF)

/-- Refuses what is no path at all. -/
def checkPath (p : Text) : Except Failure Unit :=
  let bad (c : CodePoint) : Bool := c.isSurrogate && !isOctetSurrogate c
  match p.dropWhile (!bad ·) with
  | c :: rest =>
    let first := p.length - (c :: rest).length
    .error (.unencodablePath c first (first + ((c :: rest).takeWhile CodePoint.isSurrogate).length))
  | [] =>
    if p.any (·.val = 0) then .error .embeddedNull
    else if p = [] then .error (.system .missing (some p))
    else if maxPath < p.utf8Length then .error (.system .nameTooLong (some p))
    else .ok ()

def locate (d : Disk) (p : Text) : Except Failure Location := do
  checkPath p
  (d.follow [] (steps p)).mapError fun e => .system e (some p)

def stat? (d : Disk) (p : Text) : Option Node :=
  match d.locate p with
  | .ok l => d.node? l
  | .error _ => none

def isFile (d : Disk) (p : Text) : Bool :=
  match d.stat? p with
  | some (.file _) => true
  | _ => false

def isDirectory (d : Disk) (p : Text) : Bool := d.stat? p = some .directory

def read (d : Disk) (p : Text) : Except Failure (List UInt8) := do
  let l ← d.locate p
  match d.node? l with
  | none => throw (.system .missing (some p))
  | some .directory => throw (.system .isDirectory (some p))
  | some (.file bytes) => return bytes

def checkDirectory (d : Disk) (p : Text) (l : Location) : Except Failure Unit :=
  match d.node? l with
  | some .directory => .ok ()
  | some (.file _) => .error (.system .notDirectory (some p))
  | none => .error (.system .missing (some p))

/-- The location of a file that can be written: one that is there, or a new name in a directory.
A path with a slash at the end is that of a directory, even if there is none. -/
def writable (d : Disk) (p : Text) : Except Failure Location := do
  checkPath p
  if p.endsWith "/" then
    let l ← (d.follow [] (names p).dropLast).mapError fun e => .system e (some p)
    d.checkDirectory p l
    throw (.system .isDirectory (some p))
  let l ← d.locate p
  match d.node? l with
  | some .directory => throw (.system .isDirectory (some p))
  | some (.file _) => return l
  | none =>
    d.checkDirectory p l.dropLast
    return l

def write (d : Disk) (p : Text) (bytes : List UInt8) : Except Failure Disk :=
  (d.writable p).map fun l => d.put l (.file bytes)

/-- Writes behind what the file holds; a file that is not there is made. -/
def append (d : Disk) (p : Text) (bytes : List UInt8) : Except Failure Disk :=
  (d.writable p).map fun l =>
    match d.node? l with
    | some (.file front) => d.put l (.file (front ++ bytes))
    | _ => d.put l (.file bytes)

def makeDirectory (d : Disk) (p : Text) : Except Failure Disk := do
  checkPath p
  let l ← (d.follow [] (names p)).mapError fun e => .system e (some p)
  match d.node? l with
  | some _ => throw (.system .occupied (some p))
  | none =>
    d.checkDirectory p l.dropLast
    return d.put l .directory

def ensureDirectory (d : Disk) (p : Text) : Except Failure Unit × Disk :=
  match d.makeDirectory p with
  | .ok d => (.ok (), d)
  | .error (.system e at?) =>
    if d.isDirectory p then (.ok (), d) else (.error (.system e at?), d)
  | .error e => (.error e, d)

/-- Makes a directory and before it those on the way that are not there.  What is made stays even
if something further on is refused. -/
def makeDirectories (d : Disk) (p : Text) : Except Failure Unit × Disk :=
  let whole := if Path.base p = [] then Path.directory p else p
  let name := Path.base whole
  let parent := Path.directory whole
  if h : parent.length < p.length ∧ parent ≠ [] ∧ name ≠ [] ∧ (d.stat? parent).isNone then
    have := h.1
    let last (d : Disk) : Except Failure Unit × Disk :=
      if name = Text.ofString "." then (.ok (), d) else d.ensureDirectory p
    match makeDirectories d parent with
    | (.error (.system .occupied _), d) => last d
    | (.error e, d) => (.error e, d)
    | (.ok (), d) => last d
  else d.ensureDirectory p
termination_by p.length

def rename (d : Disk) (source target : Text) : Except Failure Disk := do
  let bytes ← d.read source
  let l ← d.locate source
  let m ← d.writable target
  return (d.erase l).put m (.file bytes)

def remove (d : Disk) (p : Text) : Except Failure Disk := do
  let l ← d.locate p
  match d.node? l with
  | none => throw (.system .missing (some p))
  | some .directory => throw (.system .isDirectory (some p))
  | some (.file _) => return d.erase l

end Disk

end JsonDesk
