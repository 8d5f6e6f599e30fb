import JsonDesk.Json.Numeral

/-!
Reading documents.  Every reader takes the text from its place on and gives back what it read and
the rest, which it proves to be shorter; that is why the recursion ends.  A reader that goes round a
loop measures its result against the text at its start, so that the loop needs no stack.
-/

set_option autoImplicit false

namespace JsonDesk

/-- What a reader makes of the constants, and of integers with more digits than are converted. -/
structure Reading where
  constants : Bool
  longAsDouble : Bool

namespace Reading

/-- The validity rule: constants are not values, and a very long integer is a double. -/
def strict : Reading := ⟨false, true⟩

/-- Constants are values, and a very long integer is a fault. -/
def lenient : Reading := ⟨true, false⟩

end Reading

/-- What the stack has room for: containers nest at most so deep.  How much of the stack is in use
depends on the caller, but 400 containers inside each other always fit. -/
class StackRoom where
  maxDepth : Nat
  ample : 400 ≤ maxDepth

export StackRoom (maxDepth)

/-- The room that is left by the callers in the program itself. -/
instance StackRoom.usual : StackRoom := ⟨990, by decide⟩

structure Parsed (α : Type) (start : Text) where
  value : α
  rest : Text
  shorter : rest.length < start.length

namespace Json

/-- The four code points that may stand between tokens. -/
def isLayout (c : CodePoint) : Bool := c = ' ' || c = '\t' || c = '\n' || c = '\r'

def skipLayout (t : Text) : Text := t.dropWhile isLayout

theorem length_skipLayout_le (t : Text) : (skipLayout t).length ≤ t.length := by
  induction t with
  | nil => simp [skipLayout]
  | cons c t ih =>
    simp only [skipLayout, List.dropWhile] at ih ⊢
    split
    · exact Nat.le_succ_of_le ih
    · exact Nat.le_refl _

/-- Four hexadecimal digits with something after them. -/
def unit? : Text → Option (Nat × Text)
  | a :: b :: c :: d :: e :: t =>
    match a.hexDigit?, b.hexDigit?, c.hexDigit?, d.hexDigit? with
    | some a, some b, some c, some d => some (((a * 16 + b) * 16 + c) * 16 + d, e :: t)
    | _, _, _, _ => none
  | _ => none

def lowUnit? : Text → Option (Nat × Text)
  | b :: u :: t =>
    if b = '\\' ∧ u = 'u' then
      (unit? t).filter fun p => decide (0xDC00 ≤ p.1 ∧ p.1 ≤ 0xDFFF)
    else none
  | _ => none

theorem length_unit?_lt {t r : Text} {n : Nat} (h : unit? t = some (n, r)) :
    r.length < t.length := by
  unfold unit? at h
  split at h
  · split at h
    · simp only [Option.some.injEq, Prod.mk.injEq] at h
      simp [← h.2]
    · simp at h
  · simp at h

theorem length_lowUnit?_lt {t r : Text} {n : Nat} (h : lowUnit? t = some (n, r)) :
    r.length < t.length := by
  unfold lowUnit? at h
  split at h
  · split at h
    · have l := length_unit?_lt (Option.filter_eq_some_iff.mp h).1
      simp; omega
    · simp at h
  · simp at h

def joinUnits (high low : Nat) : CodePoint :=
  CodePoint.ofNat (0x10000 + (high - 0xD800) * 0x400 + (low - 0xDC00))

def shortEscape? (c : CodePoint) : Option CodePoint :=
  if c = '"' ∨ c = '\\' ∨ c = '/' then some c
  else if c = 'b' then some (CodePoint.ofNat 8)
  else if c = 'f' then some (CodePoint.ofNat 12)
  else if c = 'n' then some '\n'
  else if c = 'r' then some '\r'
  else if c = 't' then some '\t'
  else none

/-- Reads the rest of an escape from after its backslash.  The escape of a high surrogate takes the
escape of a low surrogate with it; any other surrogate stands for itself. -/
def escape (start : Text) : (t : Text) → Except Fault (Parsed CodePoint t)
  | [] => .error (.misread .unterminated start.length)
  | c :: t =>
    match shortEscape? c with
    | some d => .ok ⟨d, t, by simp⟩
    | none =>
      if c = 'u' then
        match h : unit? t with
        | none => .error (.misread .unicodeEscape (c :: t).length)
        | some (n, r) =>
          have l := length_unit?_lt h
          if 0xD800 ≤ n ∧ n ≤ 0xDBFF then
            match h' : lowUnit? r with
            | some (m, r') =>
              have l' := length_lowUnit?_lt h'
              .ok ⟨joinUnits n m, r', by simp; omega⟩
            | none => .ok ⟨CodePoint.ofNat n, r, by simp; omega⟩
          else .ok ⟨CodePoint.ofNat n, r, by simp; omega⟩
      else .error (.misread .escape (c :: t).length.succ)

/-- Reads a string from after its opening quote, which stood at `start`. -/
def string (start t : Text) (h : t.length < start.length) (done : Text) :
    Except Fault (Parsed Text start) :=
  match t with
  | [] => .error (.misread .unterminated start.length)
  | c :: r =>
    have hr : r.length < start.length := by simp at h; omega
    if c = '"' then .ok ⟨done.reverse, r, hr⟩
    else if c.val < 0x20 then .error (.misread .controlCharacter (c :: r).length)
    else if c = '\\' then
      match escape start r with
      | .error e => .error e
      | .ok p => string start p.rest (Nat.lt_trans p.shorter hr) (p.value :: done)
    else string start r hr (c :: done)
termination_by t.length
decreasing_by
  · have := p.shorter; simp; omega
  · simp

def number (how : Reading) (t : Text) : Except Fault (Parsed Json t) :=
  match h : Numeral.read? t with
  | none => .error (.misread .value t.length)
  | some (n, r) =>
    have l := Numeral.length_read?_lt h
    if n.isInteger then
      if n.whole.length ≤ maxDigits then .ok ⟨.int n.toInt, r, l⟩
      else if how.longAsDouble then .ok ⟨.float (.infinite n.negative), r, l⟩
      else .error (.tooLong n.whole.length)
    else .ok ⟨.float n.toDouble, r, l⟩

def word? (w : Text) (hw : w ≠ []) (v : Json) (t : Text) : Option (Parsed Json t) :=
  match h : Text.after? w t with
  | none => none
  | some r => some ⟨v, r, by
      have e := Text.after?_eq_some_iff.mp h
      have := List.length_pos_iff.mpr hw
      rw [e, List.length_append]; omega⟩

def constant? (t : Text) : Option (Constant × Parsed Json t) :=
  ((word? "NaN" (by decide) (.float .nan) t).map (Constant.nan, ·)).or <|
  ((word? "Infinity" (by decide) (.float (.infinite false)) t).map (Constant.infinity, ·)).or
  ((word? "-Infinity" (by decide) (.float (.infinite true)) t).map (Constant.minusInfinity, ·))

def scalar (how : Reading) (t : Text) : Except Fault (Parsed Json t) :=
  match (word? "null" (by decide) .null t).or <|
      (word? "true" (by decide) (.bool true) t).or (word? "false" (by decide) (.bool false) t) with
  | some p => .ok p
  | none =>
    match constant? t with
    | some (c, p) => if how.constants then .ok p else .error (.constant c)
    | none => number how t

mutual

def value [StackRoom] (how : Reading) (depth : Nat) (t : Text) : Except Fault (Parsed Json t) :=
  match t with
  | [] => .error (.misread .value 0)
  | c :: r =>
    if c = '"' then
      match string (c :: r) r (by simp) [] with
      | .error e => .error e
      | .ok p => .ok ⟨.str p.value, p.rest, p.shorter⟩
    else if c = '[' then
      if maxDepth ≤ depth then .error (.tooDeep .array)
      else
        have l := length_skipLayout_le r
        match hs : skipLayout r with
        | [] => elements how depth (c :: r) [] (by simp) []
        | d :: s =>
          have ls : s.length + 1 ≤ r.length := by rw [hs] at l; simpa using l
          if d = ']' then .ok ⟨.arr [], s, by simp; omega⟩
          else elements how depth (c :: r) (d :: s) (by simp; omega) []
    else if c = '\x7b' then
      if maxDepth ≤ depth then .error (.tooDeep .object)
      else
        have l := length_skipLayout_le r
        match hs : skipLayout r with
        | [] => members how depth (c :: r) [] (by simp) []
        | d :: s =>
          have ls : s.length + 1 ≤ r.length := by rw [hs] at l; simpa using l
          if d = '\x7d' then .ok ⟨.obj [], s, by simp; omega⟩
          else members how depth (c :: r) (d :: s) (by simp; omega) []
    else scalar how (c :: r)
termination_by (t.length, 0)
decreasing_by all_goals simp only [Prod.lex_def]; simp; try omega

/-- Reads the elements of an array from the first one on, and its closing bracket. -/
def elements [StackRoom] (how : Reading) (depth : Nat) (start t : Text)
    (h : t.length < start.length) (done : List Json) : Except Fault (Parsed Json start) :=
  match value how (depth + 1) t with
  | .error e => .error e
  | .ok p =>
    have lp := p.shorter
    have l := length_skipLayout_le p.rest
    match hs : skipLayout p.rest with
    | [] => .error (.misread .comma 0)
    | d :: s =>
      have ls : s.length + 1 ≤ p.rest.length := by rw [hs] at l; simpa using l
      if d = ']' then .ok ⟨.arr (p.value :: done).reverse, s, by omega⟩
      else if d = ',' then
        have l' := length_skipLayout_le s
        elements how depth start (skipLayout s) (by omega) (p.value :: done)
      else .error (.misread .comma (d :: s).length)
termination_by (t.length, 1)
decreasing_by all_goals simp only [Prod.lex_def]; simp; try omega

/-- Reads the members of an object from the first one on, and its closing brace. -/
def members [StackRoom] (how : Reading) (depth : Nat) (start t : Text) (h : t.length < start.length)
    (done : Members) : Except Fault (Parsed Json start) :=
  match t with
  | [] => .error (.misread .propertyName 0)
  | c :: r =>
    if c = '"' then
      match string (c :: r) r (by simp) [] with
      | .error e => .error e
      | .ok k =>
        have lk := k.shorter
        have l := length_skipLayout_le k.rest
        match hs : skipLayout k.rest with
        | [] => .error (.misread .colon 0)
        | d :: s =>
          have ls : s.length + 1 ≤ k.rest.length := by rw [hs] at l; simpa using l
          if d = ':' then
            have l' := length_skipLayout_le s
            match value how (depth + 1) (skipLayout s) with
            | .error e => .error e
            | .ok p =>
              have lp := p.shorter
              have m := length_skipLayout_le p.rest
              match hu : skipLayout p.rest with
              | [] => .error (.misread .comma 0)
              | e :: u =>
                have lu : u.length + 1 ≤ p.rest.length := by rw [hu] at m; simpa using m
                if e = '\x7d' then
                  .ok ⟨.obj (Members.ofList ((k.value, p.value) :: done).reverse), u, by
                    simp at h lk; omega⟩
                else if e = ',' then
                  have m' := length_skipLayout_le u
                  members how depth start (skipLayout u) (by simp at h lk; omega)
                    ((k.value, p.value) :: done)
                else .error (.misread .comma (e :: u).length)
          else .error (.misread .colon (d :: s).length)
    else .error (.misread .propertyName (c :: r).length)
termination_by (t.length, 1)
decreasing_by all_goals simp only [Prod.lex_def]; simp at lk ⊢; try omega

end

def decode [StackRoom] (how : Reading) (text : Text) : Except Fault Json :=
  match text with
  | [] => .error (.misread .value 0)
  | c :: t =>
    if c.val = 0xFEFF then .error (.misread .byteOrderMark (c :: t).length)
    else
      match value how 0 (skipLayout (c :: t)) with
      | .error e => .error e
      | .ok p =>
        match skipLayout p.rest with
        | [] => .ok p.value
        | d :: s => .error (.misread .extraData (d :: s).length)

end Json

end JsonDesk
