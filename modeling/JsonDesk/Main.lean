import JsonDesk.Benchmark
import JsonDesk.Editor.Snapshot
import JsonDesk.Editor.Start

/-!
The command line.  With `benchmark` as its first argument the program measures itself.  Otherwise
it starts an editor without a screen; a path opens a document in it, whose text is taken from
standard input, and what the editor shows of it is printed.
-/

set_option autoImplicit false

namespace JsonDesk.CommandLine

def printLines (lines : List Text) : IO Unit := lines.forM fun t => IO.println (Text.toString t)

/-- Everything that comes from a stream. -/
partial def readAll (input : IO.FS.Stream) (done : ByteArray) : IO ByteArray := do
  let next ← input.read 65536
  if next.isEmpty then return done else readAll input (done ++ next)

def diskWith (path : Text) (bytes : List UInt8) : Disk :=
  let place := Path.absolute workingDirectory path
  let (_, d) := Disk.empty.makeDirectories (Path.directory place)
  (d.write place bytes).toOption.getD d

def editorDirectory : Text := "/runtime"

def setup : Setup :=
  ⟨.inline, editorDirectory, ⟨1970, 1, 1, 0, 0, 0⟩, fun n => "tab-" ++ Text.ofNat n⟩

/-- What an editor shows after it has looked at its document.  When more is to be logged, the entry
in its log follows. -/
def shownLines (o : Editor.Options) (bytes : List UInt8) : Except Failure (List Text) := do
  let e ← Editor.start setup (diskWith o.path bytes) [] o.path
  let e := e.wait e.settings.feedbackDelay
  let shown := Json.obj (e.shownMembers (fun p => p.box.mark) fun _ w => w.rows)
  let logged ← if o.verbose then do
      let tail ← e.disk.tail (e.filePath Editor.logFile) (.int 0)
      pure [← Log.latestBlock tail Log.marker (.int 0)]
    else pure []
  return shown.rendered :: logged

def runEditor (arguments : List Text) : IO UInt32 := do
  match Editor.Options.parse arguments with
  | .help => printLines ["usage: jsondesk [--debug] [path]"]; return 0
  | .misuse => printLines ["usage: jsondesk [--debug] [path]"]; return 2
  | .run o =>
    let bytes ← if o.path = [] then pure [] else do
      pure (← readAll (← IO.getStdin) ByteArray.empty).toList
    match shownLines o bytes with
    | .ok lines => printLines lines; return 0
    | .error f => printLines [f.message]; return 1

/-- The mean time that some work takes, in milliseconds; its result is used so that it is done. -/
def meanTime (warmup iterations : Nat) (work : Unit → Nat) : IO Double := do
  let mut used := 0
  for _ in List.range warmup do
    used := used + work ()
  let start ← IO.monoNanosNow
  for _ in List.range iterations do
    used := used + work ()
  let stop ← IO.monoNanosNow
  let elapsed := if used = 0 then 0 else stop - start
  return Double.ofRatio false elapsed (iterations * 1000000)

/-- Measures the work on a document; the use of memory is not measured. -/
def measure (o : Benchmark.Options) (text : Text) : IO Benchmark.Timings := do
  let time := meanTime o.warmup.toNat (max 1 o.iterations).toNat
  let verdict (t : Text) : Nat := if (validate t).isValid then 1 else 2
  let broken := (Benchmark.breakComma text).toOption.getD text
  return ⟨← time fun _ => verdict text, ← time fun _ => verdict broken,
    ← time fun _ => (Stats.ofText text).size.length,
    ← time fun _ => ((text.format Json.defaultIndent).toOption.getD text).length, 0⟩

def runBenchmark (arguments : List Text) : IO UInt32 := do
  match Benchmark.Options.parse arguments with
  | .help => printLines ["usage: jsondesk benchmark [flags]"]; return 0
  | .misuse => printLines ["usage: jsondesk benchmark [flags]"]; return 2
  | .run o =>
    let disk ← match o.input with
      | some path => do pure (diskWith path (← readAll (← IO.getStdin) ByteArray.empty).toList)
      | none => pure .empty
    let timings ← match Benchmark.source disk o with
      | .ok (.ok (_, text)) => measure o text
      | _ => pure ⟨.zero, .zero, .zero, .zero, 0⟩
    match Benchmark.run disk o timings with
    | .ok (code, lines) => printLines lines; return code.toUInt32
    | .error f => printLines [f.message]; return 1

end JsonDesk.CommandLine

def main (arguments : List String) : IO UInt32 :=
  match arguments.map JsonDesk.Text.ofString with
  | first :: rest =>
    if first = JsonDesk.Text.ofString "benchmark" then JsonDesk.CommandLine.runBenchmark rest
    else JsonDesk.CommandLine.runEditor (first :: rest)
  | [] => JsonDesk.CommandLine.runEditor []
