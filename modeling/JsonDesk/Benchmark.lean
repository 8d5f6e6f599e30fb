import JsonDesk.Report
import JsonDesk.CommandLine
import JsonDesk.Disk.Save

set_option autoImplicit false

namespace JsonDesk.Benchmark

def minRecords : Nat := 20

def user (i : Nat) : Json :=
  .obj [("id", .int i), ("name", .str ("User " ++ Text.ofNat i)),
    ("email", .str ("user" ++ Text.ofNat i ++ "@example.com")),
    ("stats", .obj [("level", .int (i % 60 : Nat)), ("xp", .int (i * 17 : Nat))]),
    ("flags", .arr [.bool (i % 2 == 0), .bool (i % 3 == 0), .bool (i % 5 == 0)])]

/-- A document with so many records, but not fewer than the least number. -/
def synthetic (records : Int) : Text :=
  let n := max minRecords records.toNat
  (Json.obj [("users", .arr ((List.range n).map user))]).write
    (Json.documentStyle (.indented 2) true)

/-- The lines that end with a comma before a line that starts with a quote, counted from zero. -/
def breakable (lines : List Text) : List Nat := go 0 lines
where
  go : Nat → List Text → List Nat
  | n, current :: next :: rest =>
    let others := go (n + 1) (next :: rest)
    if current.stripRight.endsWith "," ∧ next.strip.startsWith "\"" then n :: others else others
  | _, _ => []

/-- The document without the comma at the end of the middle one of the lines that have one before a
member. -/
def breakComma (text : Text) : Except Failure Text :=
  let lines := text.lines
  let candidates := breakable lines
  match candidates[candidates.length / 2]? with
  | none => .error (.badPosition (candidates.length / 2 : Nat))
  | some target =>
    .ok (Text.join "\n" (lines.modify target fun line =>
      line.stripRight.dropRightWhile (· = CodePoint.ofChar ',')))

/-- What a run tells besides its durations: whether the valid document is valid, the line diagnosed
in the broken one, and how many keys were counted. -/
structure Sample where
  validOk : Bool
  brokenLine : Option Nat
  keys : Int

def sample (valid broken : Text) : Sample :=
  ⟨(validate valid).isValid,
    match validate broken with
    | .valid _ => none
    | .invalid _ d => d.place.line?,
    (Stats.ofText valid).keys⟩

def mebibytes (d : Double) : Text := d.fixed 2 20 ++ " MiB"

structure Options where
  input : Option Text
  records : Int
  warmup : Int
  iterations : Int
  strict : Bool
  maxValidate : Double
  maxDiagnose : Double
  maxPeak : Double

namespace Options

def default : Options :=
  let n (i : Nat) : Double := Double.ofRatio false i 1
  ⟨none, 1000, 1, 5, false, n 100, n 250, n 256⟩

def flags : List CommandLine.Flag :=
  [⟨"--input", .value⟩, ⟨"--synthetic-records", .value⟩, ⟨"--warmup", .value⟩,
    ⟨"--iterations", .value⟩, ⟨"--strict", .switch⟩, ⟨"--max-validate-ms", .value⟩,
    ⟨"--max-diagnose-ms", .value⟩, ⟨"--max-peak-mib", .value⟩]

def tidyPath (p : Text) : Text :=
  let names := (Path.pieces p).filter fun n => n ≠ [] ∧ n ≠ Text.ofString "."
  match List.replicate (Path.rootSlashes p) (CodePoint.ofChar '/') ++ Text.join "/" names with
  | [] => "."
  | t => t

def set (o : Options) (f : CommandLine.Flag) (v : Text) : Option Options :=
  let is (name : String) : Bool := f.spelling = Text.ofString name
  if is "--input" then some { o with input := some (tidyPath v) }
  else if is "--synthetic-records" then v.toInt.toOption.map fun n => { o with records := n }
  else if is "--warmup" then v.toInt.toOption.map fun n => { o with warmup := n }
  else if is "--iterations" then v.toInt.toOption.map fun n => { o with iterations := n }
  else if is "--strict" then some { o with strict := true }
  else if is "--max-validate-ms" then v.toDouble.toOption.map fun d => { o with maxValidate := d }
  else if is "--max-diagnose-ms" then v.toDouble.toOption.map fun d => { o with maxDiagnose := d }
  else v.toDouble.toOption.map fun d => { o with maxPeak := d }

def parse (arguments : List Text) : CommandLine.Outcome Options :=
  CommandLine.parse set (fun o _ => o) flags .gone default arguments

end Options

/-- Mean durations in milliseconds, and the most memory in use in bytes. -/
structure Timings where
  validate : Double
  diagnose : Double
  stats : Double
  format : Double
  peak : Nat

/-- The document to measure with, and where it is from; or the reason why there is none. -/
def source (d : Disk) (o : Options) : Except Failure (Except Text (Text × Text)) :=
  match o.input with
  | none =>
    .ok (.ok ("synthetic:" ++ Text.ofInt (max minRecords o.records), synthetic o.records))
  | some path =>
    let notFound : Except Text (Text × Text) := .error ("ERROR: input not found: " ++ path)
    match d.locate path with
    | .error (.system .nameTooLong p) => .error (.system .nameTooLong p)
    | .error _ => .ok notFound
    | .ok l =>
      match d.node? l with
      | none => .ok notFound
      | some _ =>
        match d.read path with
        | .error e => .ok (.error ("ERROR: failed to load input payload: " ++ e.message))
        | .ok bytes =>
          match Text.ofUtf8? (Text.dropMark bytes) with
          | none => .ok (.error "ERROR: failed to load input payload: not UTF-8 text")
          | some t =>
            (t.unifyLineEnds.format Json.defaultIndent).map fun text =>
              if (JsonDesk.validate text).isValid then .ok (path, text)
              else .error "ERROR: input is not valid JSON"

def milliseconds (d : Double) : Text := d.fixed 2 0 ++ " ms"

/-- The limits that were passed.  The limit on memory has to be a number of bytes. -/
def overruns (o : Options) (s : Sample) (t : Timings) : Except Failure (List Text) := do
  let duration (what : Text) (d limit : Double) : List Text :=
    if limit.lt d then ["avg " ++ what ++ " " ++ milliseconds d ++ " > " ++ milliseconds limit]
    else []
  let bytes : Int ← match o.maxPeak.timesPowerOfTwo 20 with
    | .nan => throw .undefinedInteger
    | .infinite _ => throw .infiniteInteger
    | d => pure (d.whole?.getD 0)
  return (if s.validOk then [] else [Text.ofString "valid payload reported invalid"])
    ++ (if s.brokenLine.isNone then [Text.ofString "broken payload produced no diagnosis line"]
      else [])
    ++ duration "validate" t.validate o.maxValidate
    ++ duration "diagnose" t.diagnose o.maxDiagnose
    ++ if bytes < t.peak then
        [Text.ofString "peak traced memory " ++ mebibytes (Double.ofRatio false t.peak 1) ++ " > "
          ++ o.maxPeak.fixed 2 0 ++ " MiB"]
      else []

def summary (o : Options) (origin text : Text) (s : Sample) (t : Timings) : List Text :=
  ["perf_smoke summary",
    "- source: " ++ origin,
    "- iterations: " ++ Text.ofInt (max 1 o.iterations) ++ " (warmup="
      ++ Text.ofInt (max 0 o.warmup) ++ ")",
    "- payload size: " ++ Text.grouped ',' text.length ++ " chars",
    "- keys: " ++ Text.grouped ',' s.keys.toNat,
    "- diagnosed line: " ++ (Json.ofNat? s.brokenLine).display,
    "- avg validate: " ++ milliseconds t.validate,
    "- avg diagnose: " ++ milliseconds t.diagnose,
    "- avg stats: " ++ milliseconds t.stats,
    "- avg format: " ++ milliseconds t.format,
    "- peak traced memory: " ++ mebibytes (Double.ofRatio false t.peak 1)]

/-- The exit code of a run and the lines that it prints, for given timings. -/
def run (d : Disk) (o : Options) (t : Timings) : Except Failure (Nat × List Text) := do
  match ← source d o with
  | .error line => return (2, [line])
  | .ok (origin, text) =>
    match breakComma text with
    | .error _ => return (2, ["ERROR: input has no comma-separated members to break"])
    | .ok broken =>
      let s := sample text broken
      let lines := summary o origin text s t
      if !o.strict then return (0, lines)
      else
        match ← overruns o s t with
        | [] => return (0, lines ++ [Text.ofString "perf_smoke strict gate: PASS"])
        | passed =>
          return (1, lines ++ [Text.ofString "perf_smoke strict gate: FAIL"]
            ++ passed.map fun (line : Text) => Text.ofString "- " ++ line)

end JsonDesk.Benchmark
