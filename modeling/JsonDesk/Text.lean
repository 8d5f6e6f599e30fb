/-!
Text as the list of its code points.  A document may hold lone surrogates, which are code points
without being characters, so the alphabet is every number below `0x110000`.  The operations here
are the ones that every later module reads text with: cutting, searching, joining, decimal numbers.
-/

set_option autoImplicit false

namespace JsonDesk

structure CodePoint where
  val : Nat
  isLt : val < 0x110000
deriving DecidableEq

namespace CodePoint

def ofChar (c : Char) : CodePoint :=
  ⟨c.toNat, by
    have h := c.valid
    simp only [UInt32.isValidChar, Nat.isValidChar] at h
    show c.val.toNat < 0x110000
    omega⟩

instance : Coe Char CodePoint := ⟨ofChar⟩

instance : Inhabited CodePoint := ⟨ofChar ' '⟩

/-- The code point of a number, and the replacement character for numbers beyond the last one. -/
def ofNat (n : Nat) : CodePoint :=
  if h : n < 0x110000 then ⟨n, h⟩ else ⟨0xFFFD, by decide⟩

def isHighSurrogate (c : CodePoint) : Bool := decide (0xD800 ≤ c.val ∧ c.val ≤ 0xDBFF)

def isLowSurrogate (c : CodePoint) : Bool := decide (0xDC00 ≤ c.val ∧ c.val ≤ 0xDFFF)

def isSurrogate (c : CodePoint) : Bool := decide (0xD800 ≤ c.val ∧ c.val ≤ 0xDFFF)

theorem isSurrogate_eq (c : CodePoint) :
    c.isSurrogate = (c.isHighSurrogate || c.isLowSurrogate) := by
  simp only [isSurrogate, isHighSurrogate, isLowSurrogate, ← Bool.decide_or, decide_eq_decide]
  omega

theorem ofChar_val (c : Char) : (ofChar c).val = c.toNat := rfl

theorem not_isSurrogate_ofChar (c : Char) : (ofChar c).isSurrogate = false := by
  have h := c.valid
  simp only [UInt32.isValidChar, Nat.isValidChar] at h
  have hv : (ofChar c).val = c.val.toNat := rfl
  simp only [isSurrogate, decide_eq_false_iff_not, hv]
  omega

def digit? (c : CodePoint) : Option Nat :=
  if 0x30 ≤ c.val ∧ c.val ≤ 0x39 then some (c.val - 0x30) else none

def isDigit (c : CodePoint) : Bool := c.digit?.isSome

def hexDigit? (c : CodePoint) : Option Nat :=
  if 0x30 ≤ c.val ∧ c.val ≤ 0x39 then some (c.val - 0x30)
  else if 0x41 ≤ c.val ∧ c.val ≤ 0x46 then some (c.val - 0x41 + 10)
  else if 0x61 ≤ c.val ∧ c.val ≤ 0x66 then some (c.val - 0x61 + 10)
  else none

def ofDigit (d : Nat) : CodePoint :=
  if d < 10 then ofNat (0x30 + d) else ofNat (0x57 + d)

theorem digit?_ofDigit {d : Nat} (h : d < 10) : (ofDigit d).digit? = some d := by
  have all : ∀ e ∈ List.range 10, (ofDigit e).digit? = some e := by decide
  exact all d (List.mem_range.mpr h)

theorem hexDigit?_ofDigit {d : Nat} (h : d < 16) : (ofDigit d).hexDigit? = some d := by
  have all : ∀ e ∈ List.range 16, (ofDigit e).hexDigit? = some e := by decide
  exact all d (List.mem_range.mpr h)

end CodePoint

abbrev Text := List CodePoint

namespace Text

def ofString (s : String) : Text := s.toList.map CodePoint.ofChar

instance : Coe String Text := ⟨ofString⟩

/-- The same text as a string; a surrogate, which is no character, is replaced. -/
def toString (t : Text) : String :=
  String.ofList (t.map fun c => if c.isSurrogate then Char.ofNat 0xFFFD else Char.ofNat c.val)

def startsWith (t p : Text) : Bool := p.isPrefixOf t

def endsWith (t p : Text) : Bool := p.isSuffixOf t

/-- What follows `p` at the start of `t`. -/
def after? : (p t : Text) → Option Text
  | [], t => some t
  | _ :: _, [] => none
  | c :: p, d :: t => if c = d then after? p t else none

theorem after?_eq_some_iff {p t r : Text} : after? p t = some r ↔ t = p ++ r := by
  induction p generalizing t with
  | nil => simp [after?, eq_comm]
  | cons c p ih =>
    cases t with
    | nil => simp [after?]
    | cons d t =>
      by_cases h : c = d
      · simp [after?, h, ih]
      · simp [after?, h, Ne.symm h]

def contains : (t p : Text) → Bool
  | [], p => p.isEmpty
  | c :: t, p => startsWith (c :: t) p || contains t p

/-- The parts of `t` before and after the first occurrence of `p`. -/
def cut? (t p : Text) : Option (Text × Text) := go t []
where
  go : Text → Text → Option (Text × Text)
  | [], seen => (after? p []).map (seen.reverse, ·)
  | c :: t, seen =>
    match after? p (c :: t) with
    | some r => some (seen.reverse, r)
    | none => go t (c :: seen)

def afterLast? (t p : Text) : Option Text := go t none
where
  go : Text → Option Text → Option Text
  | [], found => (after? p []).or found
  | c :: t, found => go t ((after? p (c :: t)).or found)

def replaceFirst (t p r : Text) : Text :=
  match cut? t p with
  | some (front, back) => front ++ r ++ back
  | none => t

/-- Cuts at every `sep`, so that a text has one more piece than separators. -/
def splitOn (sep : CodePoint) (t : Text) : List Text := go t [] []
where
  go : Text → Text → List Text → List Text
  | [], piece, done => (piece.reverse :: done).reverse
  | c :: t, piece, done =>
    if c = sep then go t [] (piece.reverse :: done) else go t (c :: piece) done

def join (sep : Text) : List Text → Text
  | [] => []
  | t :: ts => t ++ (ts.map (sep ++ ·)).flatten

def dropRightWhile (p : CodePoint → Bool) (t : Text) : Text := (t.reverse.dropWhile p).reverse

def trim (p : CodePoint → Bool) (t : Text) : Text := dropRightWhile p (t.dropWhile p)

theorem splitOn.go_ne_nil (sep : CodePoint) (t piece : Text) (done : List Text) :
    splitOn.go sep t piece done ≠ [] := by
  induction t generalizing piece done with
  | nil => simp [go]
  | cons c t ih =>
    rw [go]
    split
    · exact ih _ _
    · exact ih _ _

theorem splitOn_ne_nil (sep : CodePoint) (t : Text) : splitOn sep t ≠ [] :=
  splitOn.go_ne_nil sep t [] []

def ofNat (n : Nat) : Text := go n []
where
  go (n : Nat) (done : Text) : Text :=
    if n < 10 then CodePoint.ofDigit n :: done
    else go (n / 10) (CodePoint.ofDigit (n % 10) :: done)
  termination_by n
  decreasing_by exact Nat.div_lt_self (by omega) (by omega)

def ofInt : Int → Text
  | .ofNat n => ofNat n
  | .negSucc n => '-' :: ofNat (n + 1)

/-- The number that a run of decimal digits denotes, whatever class the digits are taken from. -/
def natOf (digit? : CodePoint → Option Nat) (t : Text) : Nat :=
  t.foldl (fun n c => 10 * n + (digit? c).getD 0) 0

/-- A run of hexadecimal digits, most significant first, padded with zeros. -/
def hex : (width n : Nat) → Text
  | 0, _ => []
  | w + 1, n => CodePoint.ofDigit (n / Nat.pow 16 w % 16) :: hex w n

def le : Text → Text → Bool
  | [], _ => true
  | _ :: _, [] => false
  | c :: s, d :: t => if c.val = d.val then le s t else decide (c.val < d.val)

theorem le_total (s t : Text) : (le s t || le t s) = true := by
  induction s generalizing t with
  | nil => simp [le]
  | cons c s ih =>
    cases t with
    | nil => simp [le]
    | cons d t =>
      by_cases h : c.val = d.val
      · simpa [le, h] using ih t
      · simp only [le, h, if_false, Ne.symm h]
        simp only [Bool.or_eq_true, decide_eq_true_eq]
        omega

end Text

end JsonDesk
