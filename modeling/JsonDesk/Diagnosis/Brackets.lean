import JsonDesk.Diagnosis

/-!
The balance of braces and brackets.  The delimiters outside strings are matched on a stack while
the lines of a text go by; the string state and the escape state carry over from line to line,
whereas the line feeds themselves are not looked at.
-/

set_option autoImplicit false

namespace JsonDesk

/-- The state of the scan: what is open, the innermost first, and how the next code point is to be
read. -/
structure Balance where
  opened : List (Bracket × Position)
  inString : Bool
  escaped : Bool

namespace Balance

def start : Balance := ⟨[], false, false⟩

def step (s : Balance) (p : Position) (c : CodePoint) : Except Diagnosis Balance :=
  if s.escaped then .ok { s with escaped := false }
  else if c = '\\' then .ok { s with escaped := true }
  else if c = '"' then .ok { s with inString := !s.inString }
  else if s.inString then .ok s
  else match Bracket.ofOpener? c with
    | some b => .ok { s with opened := (b, p) :: s.opened }
    | none =>
      match Bracket.ofCloser? c with
      | none => .ok s
      | some found =>
        match s.opened with
        | [] => .error ⟨.point p, .unexpectedCloser found⟩
        | (b, q) :: rest =>
          if b = found then .ok { s with opened := rest }
          else .error ⟨.point p, .mismatch b found q.line⟩

def line (n : Nat) : (column : Nat) → Balance → Text → Except Diagnosis Balance
  | _, s, [] => .ok s
  | column, s, c :: t =>
    match s.step ⟨n, column⟩ c with
    | .error d => .error d
    | .ok s => line n (column + 1) s t

def lines : Nat → Balance → List Text → Except Diagnosis Balance
  | _, s, [] => .ok s
  | n, s, l :: ls =>
    match line n 1 s l with
    | .error d => .error d
    | .ok s => lines (n + 1) s ls

/-- The innermost delimiter that is still open is the one to close. -/
def verdict (s : Balance) : Option Diagnosis :=
  s.opened.head?.map fun o => ⟨.point o.2, .unclosed o.1⟩

end Balance

/-- The first delimiter that does not match, or the one left open. -/
def Diagnosis.brackets (text : Text) : Option Diagnosis :=
  match Balance.lines 1 Balance.start text.lines with
  | .error d => some d
  | .ok s => s.verdict

end JsonDesk
