import JsonDesk.Failure
import JsonDesk.Text.Blank
import JsonDesk.Text.Digit
import JsonDesk.Text.Letter
import JsonDesk.Json.Numeral

set_option autoImplicit false

namespace JsonDesk

/-- White space that may surround a number; the information separators may not. -/
def CodePoint.isNumberBlank (c : CodePoint) : Bool :=
  c.isBlank && !(decide (0x1C ≤ c.val) && decide (c.val ≤ 0x1F))

namespace Text

/-- Runs of digits of any script, in which single underscores may stand between digits.  The result
is the values of the digits, and what follows the run. -/
def digitRun? (t : Text) : Option (List Nat × Text) := go t [] false
where
  go : Text → List Nat → (gap : Bool) → Option (List Nat × Text)
  | [], done, gap => if done.isEmpty || gap then none else some (done.reverse, [])
  | c :: t, done, gap =>
    match c.decimal? with
    | some d => go t (d :: done) false
    | none =>
      if c = '_' then if done.isEmpty || gap then none else go t done true
      else if done.isEmpty || gap then none else some (done.reverse, c :: t)

def ofDigits (ds : List Nat) : Nat := ds.foldl (fun n d => 10 * n + d) 0

def signed : Text → Bool × Text
  | [] => (false, [])
  | c :: t => if c = '-' then (true, t) else if c = '+' then (false, t) else (false, c :: t)

/-- The integer that a text spells, white space around it aside. -/
def toInt (t : Text) : Except Failure Int :=
  let (negative, digits) := signed (t.trim CodePoint.isNumberBlank)
  match digitRun? digits with
  | none => .error (.notInteger t)
  | some (ds, rest) =>
    if maxDigits < ds.length then .error (.tooManyDigits ds.length)
    else if rest.isEmpty then .ok (if negative then -(ofDigits ds : Int) else ofDigits ds)
    else .error (.notInteger t)

/-- A decimal with digits before or after its point, and perhaps an exponent. -/
def decimal? (t : Text) : Option Decimal :=
  let (whole, rest) := (digitRun? t).getD ([], t)
  let point : Option (List Nat × Text) :=
    match rest with
    | [] => some ([], [])
    | c :: u =>
      if c = '.' then
        match u with
        | [] => some ([], [])
        | d :: _ => if d.isDecimal then digitRun? u else some ([], u)
      else some ([], rest)
  match point with
  | none => none
  | some (fraction, rest) =>
    if whole.isEmpty && fraction.isEmpty then none
    else
      let digits := ofDigits (whole ++ fraction)
      let places : Int := fraction.length
      match rest with
      | [] => some ⟨digits, -places⟩
      | c :: u =>
        if c = 'e' ∨ c = 'E' then
          let (negative, v) := signed u
          match digitRun? v with
          | some (ds, []) =>
            some ⟨digits, (if negative then -(ofDigits ds : Int) else ofDigits ds) - places⟩
          | _ => none
        else none

/-- The double that a text spells; words for what is not finite count in any case. -/
def toDouble (t : Text) : Except Failure Double :=
  let (negative, u) := signed (t.trim CodePoint.isNumberBlank)
  let word := u.lower
  if word = ofString "inf" ∨ word = ofString "infinity" then .ok (.infinite negative)
  else if word = ofString "nan" then .ok .nan
  else match decimal? u with
    | some d => .ok (d.toDouble negative)
    | none => .error (.notDouble t)

end Text

namespace Json

/-- Empty, zero and false values count as absent. -/
def truthy : Json → Bool
  | null => false
  | bool b => b
  | int i => i != 0
  | float d => !d.isZero
  | str t => !t.isEmpty
  | arr vs => !vs.isEmpty
  | obj ms => !ms.isEmpty

def isNull : Json → Bool
  | null => true
  | _ => false

/-- The display of a value, and the empty text for one that counts as absent. -/
def orEmpty (v : Json) : Text := if v.truthy then v.display else []

/-- The document that a value stands for: nothing for null, and otherwise what it displays. -/
def document (v : Json) : Text := if v.isNull then [] else v.display

/-- The display of a value, and a given text for one that counts as absent. -/
def orText (v : Json) (other : Text) : Text := if v.truthy then v.display else other

/-- A value as an integer; doubles are rounded towards zero. -/
def toInt : Json → Except Failure Int
  | int i => .ok i
  | bool b => .ok (if b then 1 else 0)
  | float d =>
    match d with
    | .nan => .error .undefinedInteger
    | .infinite _ => .error .infiniteInteger
    | d => .ok (d.whole?.getD 0)
  | str t => t.toInt
  | v => .error (.integerType v.typeName)

def toDouble : Json → Except Failure Double
  | int i => ofInteger i
  | bool b => ofInteger (if b then 1 else 0)
  | float d => .ok d
  | str t => t.toDouble
  | v => .error (.doubleType v.typeName)
where
  ofInteger (i : Int) : Except Failure Double :=
    match Double.ofInt? i with
    | some d => .ok d
    | none => .error .doubleOverflow

/-- The value of a number, truth values counting as zero and one. -/
inductive Numeric
  | int (i : Int)
  | float (d : Double)

def numeric? : Json → Option Numeric
  | int i => some (.int i)
  | bool b => some (.int (if b then 1 else 0))
  | float d => some (.float d)
  | _ => none

def record : Json → Except Failure Members
  | obj ms => .ok ms
  | v => .error (.noMember v.typeName "get")

def field (ms : Members) (name : Text) : Json := (ms.get? name).getD .null

/-- The values met by going through a value: items of an array, names of an object, code points of
a string. -/
def iterate : Json → Except Failure (List Json)
  | arr vs => .ok vs
  | obj ms => .ok ((Members.names ms).map .str)
  | str t => .ok (t.map fun c => .str [c])
  | v => .error (.notIterable v.typeName)

def hashable : Json → Except Failure Unit
  | arr _ => .error (.unhashable "list")
  | obj _ => .error (.unhashable "dict")
  | _ => .ok ()

end Json

def Members.allKnown (record : Text) (known : List Text) (ms : Members) : Except Failure Unit :=
  match ms.names.find? fun n => !known.elem n with
  | some n => .error (.unexpectedField record n)
  | none => .ok ()

end JsonDesk
