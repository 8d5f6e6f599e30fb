import JsonDesk.Disk.Save
import JsonDesk.Log
import JsonDesk.Text.Lines

set_option autoImplicit false

namespace JsonDesk.Disk

/-- The octets behind the first line feed, and all of them if there is none. -/
def afterFirstLine (bytes : List UInt8) : List UInt8 :=
  match bytes.dropWhile (· != 10) with
  | [] => bytes
  | _ :: rest => rest

/-- The last so many octets, without the broken line at their front. -/
def keptTail (keep : Nat) (bytes : List UInt8) : List UInt8 :=
  afterFirstLine (bytes.drop (bytes.length - keep))

/-- Cuts a file that has more than `most` octets down to the end that `keep` octets hold. -/
def trimFile (path : Text) (most keep : Json) : DiskM Unit := do
  match (← get).stat? path with
  | some (.file bytes) =>
    let limit ← most.toInt
    if limit < bytes.length then
      let rest := keptTail (← keep.toInt).toNat bytes
      act fun d => d.write path rest
  | _ => return

def tail (d : Disk) (path : Text) (limit : Json) : Except Failure Text :=
  match d.stat? path with
  | some (.file bytes) => do
    let n ← limit.toInt
    return Log.lastPart n.toNat (Text.ofUtf8Lossy bytes).unifyLineEnds
  | _ => .ok []

def tolerate (run : DiskM Unit) : DiskM Unit :=
  tryCatch run fun e => if e.kind.tolerable then return () else throw e

/-- Appends an entry for an invalid document and tells whether it did.  The file is there even if
the entry cannot be encoded. -/
def logInvalid (now : Stamp) (path action text : Text) (report : Report) (most keep : Json) :
    DiskM Bool :=
  if report.valid then return false
  else
    tryCatch
      (do
        let directory := Path.directory path
        if directory ≠ [] then change fun d => d.makeDirectories directory
        tolerate (trimFile path most keep)
        let entry ← Log.entry now action text report
        match entry.utf8? with
        | some bytes =>
          act fun d => d.append path bytes
          return true
        | none =>
          act fun d => d.append path []
          return false)
      fun e => if e.kind.tolerable then return false else throw e

def logLimits : Nat × Nat := (512 * 1024, 256 * 1024)

end JsonDesk.Disk
