import JsonDesk.Text

/-!
The octets of a text.  Encoding gives one to four octets to a code point; decoding takes a whole
well-formed sequence or nothing, and a lenient reader puts one replacement character in place of
every beginning of a sequence that breaks off.
-/

set_option autoImplicit false

namespace JsonDesk

namespace CodePoint

def utf8Size (c : CodePoint) : Nat :=
  if c.val < 0x80 then 1 else if c.val < 0x800 then 2 else if c.val < 0x10000 then 3 else 4

def continuation (n : Nat) : UInt8 := UInt8.ofNat (0x80 + n % 64)

def utf8 (c : CodePoint) : List UInt8 :=
  let n := c.val
  if n < 0x80 then [UInt8.ofNat n]
  else if n < 0x800 then [UInt8.ofNat (0xC0 + n / 64), continuation n]
  else if n < 0x10000 then
    [UInt8.ofNat (0xE0 + n / 4096), continuation (n / 64), continuation n]
  else
    [UInt8.ofNat (0xF0 + n / 262144), continuation (n / 4096), continuation (n / 64),
      continuation n]

theorem length_utf8 (c : CodePoint) : c.utf8.length = c.utf8Size := by
  simp only [utf8, utf8Size]
  split
  · rfl
  · split
    · rfl
    · split <;> rfl

def replacement : CodePoint := ofNat 0xFFFD

end CodePoint

namespace Utf8

/-- The rest of a sequence: so many more octets, of which the first lies between two bounds and
the others anywhere in the range of continuations.  A sequence that breaks off leaves the octet
that broke it. -/
def tail : (need value low high : Nat) → List UInt8 → Option CodePoint × List UInt8
  | 0, value, _, _, bs => (some (CodePoint.ofNat value), bs)
  | _ + 1, _, _, _, [] => (none, [])
  | need + 1, value, low, high, b :: bs =>
    if low ≤ b.toNat ∧ b.toNat ≤ high then tail need (value * 64 + b.toNat % 64) 0x80 0xBF bs
    else (none, b :: bs)

/-- Reads one sequence, given its first octet.  The bounds on the second octet keep out overlong
forms, surrogates and numbers beyond the last code point. -/
def sequence (b : UInt8) (bs : List UInt8) : Option CodePoint × List UInt8 :=
  let n := b.toNat
  if n < 0x80 then (some (CodePoint.ofNat n), bs)
  else if n < 0xC2 then (none, bs)
  else if n < 0xE0 then tail 1 (n % 32) 0x80 0xBF bs
  else if n < 0xF0 then
    tail 2 (n % 16) (if n = 0xE0 then 0xA0 else 0x80) (if n = 0xED then 0x9F else 0xBF) bs
  else if n < 0xF5 then
    tail 3 (n % 8) (if n = 0xF0 then 0x90 else 0x80) (if n = 0xF4 then 0x8F else 0xBF) bs
  else (none, bs)

theorem length_tail_le (need value low high : Nat) (bs : List UInt8) :
    (tail need value low high bs).2.length ≤ bs.length := by
  induction need generalizing value low high bs with
  | zero => simp [tail]
  | succ need ih =>
    cases bs with
    | nil => simp [tail]
    | cons b bs =>
      rw [tail]
      split
      · exact Nat.le_succ_of_le (ih _ _ _ _)
      · exact Nat.le_refl _

theorem length_sequence_le (b : UInt8) (bs : List UInt8) :
    (sequence b bs).2.length ≤ bs.length := by
  simp only [sequence]
  repeat' split
  all_goals first
    | exact Nat.le_refl _
    | exact length_tail_le _ _ _ _ _

end Utf8

namespace Text

/-- The number of octets, a surrogate counting as the three octets of its number. -/
def utf8Length (t : Text) : Nat := t.foldl (fun n c => n + c.utf8Size) 0

def utf8? (t : Text) : Option (List UInt8) :=
  if t.any CodePoint.isSurrogate then none else some (t.flatMap CodePoint.utf8)

def ofUtf8? (bs : List UInt8) : Option Text := go bs []
where
  go (bs : List UInt8) (done : Text) : Option Text :=
    match bs with
    | [] => some done.reverse
    | b :: bs =>
      match (Utf8.sequence b bs).1 with
      | some c => go (Utf8.sequence b bs).2 (c :: done)
      | none => none
  termination_by bs.length
  decreasing_by exact Nat.lt_succ_of_le (Utf8.length_sequence_le b bs)

/-- The text of any octets, with replacement characters where they are not well-formed. -/
def ofUtf8Lossy (bs : List UInt8) : Text := go bs []
where
  go (bs : List UInt8) (done : Text) : Text :=
    match bs with
    | [] => done.reverse
    | b :: bs =>
      go (Utf8.sequence b bs).2 ((Utf8.sequence b bs).1.getD CodePoint.replacement :: done)
  termination_by bs.length
  decreasing_by exact Nat.lt_succ_of_le (Utf8.length_sequence_le b bs)

def dropMark : List UInt8 → List UInt8
  | 0xEF :: 0xBB :: 0xBF :: bs => bs
  | bs => bs

end Text

end JsonDesk
