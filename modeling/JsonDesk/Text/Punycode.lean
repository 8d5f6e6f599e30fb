import JsonDesk.Text.Letter
import JsonDesk.Text.Lines

/-!
Text in letters, digits and hyphens.  The characters of ASCII come first; every other character is
told by how far it is from the one inserted before it, in the order of the code points.  The names
of hosts are written this way, label by label.
-/

set_option autoImplicit false

namespace JsonDesk

namespace Punycode

def digit (n : Nat) : CodePoint := if n < 26 then .ofNat (0x61 + n) else .ofNat (0x30 + (n - 26))

/-- The number from which on a digit at a place has more digits after it. -/
def threshold (place bias : Nat) : Nat :=
  if place ≤ bias then 1 else if bias + 26 ≤ place then 26 else place - bias

theorem threshold_pos (place bias : Nat) : 0 < threshold place bias := by
  simp only [threshold]
  repeat' split
  all_goals omega

def digits (bias place n : Nat) : Text :=
  let t := threshold place bias
  if n < t then [digit n]
  else digit (t + (n - t) % (36 - t)) :: digits bias (place + 36) ((n - t) / (36 - t))
termination_by n
decreasing_by
  have pos := threshold_pos place bias
  exact Nat.lt_of_le_of_lt (Nat.div_le_self _ _) (by omega)

/-- Divides by thirty-five down to a small number, and counts the places. -/
def settle (n place : Nat) : Nat × Nat :=
  if 455 < n then settle (n / 35) (place + 36) else (n, place)
termination_by n
decreasing_by exact Nat.div_lt_self (by omega) (by omega)

/-- The bias for the next distance, after a distance in a text of so many characters. -/
def adapt (distance count : Nat) (first : Bool) : Nat :=
  let d := if first then distance / 700 else distance / 2
  let (n, place) := settle (d + d / count) 0
  place + 36 * n / (n + 38)

/-- What is written so far, how many characters that is, and the distance from the last one. -/
structure Progress where
  written : Text
  count : Nat
  distance : Nat
  bias : Nat

/-- Passes one character of the text while those with a given code are inserted; `basic` is how many
characters are ASCII. -/
def Progress.pass (basic code : Nat) (s : Progress) (c : CodePoint) : Progress :=
  if c.val < code then { s with distance := s.distance + 1 }
  else if c.val = code then
    { written := s.written ++ digits s.bias 36 s.distance, count := s.count + 1, distance := 0,
      bias := adapt s.distance (s.count + 1) (s.count = basic) }
  else s

/-- Inserts the characters with the codes, which ascend; all codes below `next` are done. -/
def insert (t : Text) (basic : Nat) : (codes : List Nat) → (next : Nat) → Progress → Progress
  | [], _, s => s
  | code :: codes, next, s =>
    let s := { s with distance := s.distance + (code - next) * (s.count + 1) }
    let s := t.foldl (Progress.pass basic code) s
    insert t basic codes (code + 1) { s with distance := s.distance + 1 }

def write (t : Text) : Text :=
  let basic := t.filter (·.val < 0x80)
  let codes := ((t.map (·.val)).filter (0x80 ≤ ·)).mergeSort.eraseReps
  basic ++ (if basic = [] then [] else "-")
    ++ (insert t basic.length codes 0x80 ⟨[], basic.length, 0, 72⟩).written

end Punycode

namespace HostName

def isStop (c : CodePoint) : Bool :=
  c.val = 0x2E || c.val = 0x3002 || c.val = 0xFF0E || c.val = 0xFF61

/-- A label as hosts know it.  A label that is not ASCII is taken to be in its canonical form but
for the case of its ASCII letters. -/
def label? (t : Text) : Option Text :=
  let fitting (t : Text) : Option Text := if 0 < t.length ∧ t.length < 64 then some t else none
  if t.all (·.val < 0x80) then fitting t
  else
    let t := t.lower
    if t.startsWith "xn--" ∨ t.any CodePoint.isSurrogate then none
    else if t.all (·.val < 0x80) then fitting t
    else fitting ("xn--" ++ Punycode.write t)

def write? (t : Text) : Option Text :=
  let stopped : Text := t.map fun c => if isStop c then '.' else c
  ((stopped.splitOn '.').dropLast.mapM label?).map fun labels => labels.flatMap (· ++ ".")

end HostName

end JsonDesk
