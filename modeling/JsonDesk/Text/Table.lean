import JsonDesk.Text

set_option autoImplicit false

namespace JsonDesk

structure Strip where
  first : Nat
  characters : Text

namespace Strip

/-- A strip given in rows.  A replacement character stands for a place without a character. -/
def rows (first : Nat) (rows : List Text) : Strip := ⟨first, rows.flatten⟩

def run (first point count : Nat) : Strip :=
  ⟨first, (List.range count).map fun i => .ofNat (point + i)⟩

end Strip

structure Table where
  strips : List Strip

namespace Table

/-- Two tables in one; where both have a character the first one counts. -/
def before (t u : Table) : Table := ⟨t.strips ++ u.strips⟩

def place? (t : Table) (c : CodePoint) : Option Nat :=
  if c.val = 0xFFFD then none
  else t.strips.findSome? fun s => (s.characters.idxOf? c).map fun i => s.first + i

def count (t : Table) (p : CodePoint → Bool) : Nat :=
  t.strips.foldl (fun n s => n + s.characters.countP fun c => c.val != 0xFFFD && p c) 0

end Table

end JsonDesk
