import JsonDesk.Json.Convert

/-!
Command lines.  A flag may be shortened as long as it stays unambiguous, and may carry its value
behind an equals sign; negative numbers are values and not flags; two dashes end the flags.
-/

set_option autoImplicit false

namespace JsonDesk.CommandLine

inductive FlagKind
  | switch
  | value
  | help
deriving DecidableEq

structure Flag where
  spelling : Text
  kind : FlagKind
deriving DecidableEq

def helpFlags : List Flag := [⟨"-h", .help⟩, ⟨"--help", .help⟩]

inductive Token
  | plain (t : Text)
  | flag (f : Flag) (value : Option Text)
  /-- Short flags written together: `-h` and more letters. -/
  | cluster (t : Text)
  | unknown (t : Text)
  /-- The two dashes. -/
  | separator

def withoutLineFeed (t : Text) : Text := if t.endsWith "\n" then t.dropLast else t

/-- Digits with a minus sign in front, and perhaps a point among them; a line may end there. -/
def isNegativeNumber (t : Text) : Bool :=
  match withoutLineFeed t with
  | [] => false
  | c :: u =>
    c = '-' &&
      match u.dropWhile CodePoint.isDecimal with
      | [] => !u.isEmpty
      | d :: v => d = '.' && !v.isEmpty && v.all CodePoint.isDecimal

def isLong (t : Text) : Bool := t.startsWith "--"

/-- What an argument is; nothing for a flag that is ambiguous. -/
def token? (flags : List Flag) (t : Text) : Option Token :=
  let exact (u : Text) : Option Flag := flags.find? fun f => f.spelling = u
  if t.length ≤ 1 ∨ ¬ t.startsWith "-" then some (.plain t)
  else match exact t with
    | some f => some (.flag f none)
    | none =>
      let (front, value) := match t.cut? "=" with
        | some (front, back) => (front, some back)
        | none => (t, none)
      match value.bind fun _ => exact front with
      | some f => some (.flag f value)
      | none =>
        let other : Token :=
          if isNegativeNumber t ∨ t.contains " " then .plain t else .unknown t
        if isLong t then
          match flags.filter fun f => f.spelling.startsWith front with
          | [] => some other
          | [f] => some (.flag f value)
          | _ => none
        else if (exact (t.take 2)).isSome then some (.cluster (t.drop 2))
        else some other

def tokens? (flags : List Flag) : List Text → Option (List Token)
  | [] => some []
  | t :: ts =>
    if t = Text.ofString "--" then some (.separator :: ts.map .plain)
    else do
      let first ← token? flags t
      let rest ← tokens? flags ts
      return first :: rest

/-- Whether the letters behind `-h` leave it a request for help: they do unless a dash or an equals
sign comes while they are still read as flags. -/
def asksForHelp : Text → Bool
  | [] => true
  | c :: t =>
    if c = '-' then false
    else if c = 'h' then t.head? ≠ some '=' && asksForHelp t
    else true

inductive Outcome (σ : Type)
  | run (settings : σ)
  | help
  | misuse

/-- Where the place for a plain argument is: still free, just filled, or gone. -/
inductive Slot
  | free | filled | gone
deriving DecidableEq

section

variable {σ : Type} (set : σ → Flag → Text → Option σ) (fill : σ → Text → σ)

/-- Takes the arguments in their order.  What is left over makes the whole line a misuse, but only
after everything else has been looked at. -/
def take : (s : σ) → Slot → (leftOver : Bool) → List Token → Outcome σ
  | s, _, leftOver, [] => if leftOver then .misuse else .run s
  | s, slot, leftOver, .plain t :: rest =>
    match slot with
    | .free => take (fill s t) .filled leftOver rest
    | slot => take s slot true rest
  | s, slot, leftOver, .separator :: rest => take s slot (leftOver || slot = .gone) rest
  | s, slot, _, .unknown _ :: rest => take s (after slot) true rest
  | _, _, _, .cluster t :: _ => if asksForHelp t then .help else .misuse
  | s, slot, leftOver, .flag f value :: rest =>
    match f.kind, value with
    | .help, none => .help
    | .switch, none =>
      match set s f [] with
      | some s => take s (after slot) leftOver rest
      | none => .misuse
    | .value, some v =>
      match set s f v with
      | some s => take s (after slot) leftOver rest
      | none => .misuse
    | .value, none =>
      match rest with
      | .plain v :: rest =>
        match set s f v with
        | some s => take s (after slot) leftOver rest
        | none => .misuse
      | _ => .misuse
    | _, some _ => .misuse
where
  after : Slot → Slot
  | .free => .free
  | _ => .gone

def parse (flags : List Flag) (slot : Slot) (start : σ) (arguments : List Text) : Outcome σ :=
  match tokens? (helpFlags ++ flags) arguments with
  | none => .misuse
  | some ts => take set fill start slot false ts

end

end JsonDesk.CommandLine
