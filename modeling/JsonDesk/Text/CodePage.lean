import JsonDesk.Text

set_option autoImplicit false

namespace JsonDesk

structure CodePage where
  characters : List (Option CodePoint)
deriving DecidableEq

namespace CodePage

def overlay (p : CodePage) (octet : Nat) (entries : List (Option CodePoint)) : CodePage :=
  ⟨p.characters.take octet ++ entries ++ p.characters.drop (octet + entries.length)⟩

/-- The page with other characters from an octet on, given in rows.  A replacement character stands
for an octet without a character. -/
def put (p : CodePage) (octet : Nat) (rows : List Text) : CodePage :=
  p.overlay octet (rows.flatten.map fun c => if c.val = 0xFFFD then none else some c)

def run (p : CodePage) (octet first count : Nat) : CodePage :=
  p.overlay octet ((List.range count).map fun i => some (.ofNat (first + i)))

def clear (p : CodePage) (octet count : Nat) : CodePage :=
  p.overlay octet (List.replicate count none)

def octet? (p : CodePage) (c : CodePoint) : Option UInt8 :=
  (p.characters.idxOf? (some c)).map UInt8.ofNat

def character? (p : CodePage) (b : UInt8) : Option CodePoint := (p.characters[b.toNat]?).join

theorem character?_of_octet? {p : CodePage} {c : CodePoint} {b : UInt8}
    (size : p.characters.length ≤ 256) (h : p.octet? c = some b) : p.character? b = some c := by
  obtain ⟨i, hi, rfl⟩ := Option.map_eq_some_iff.mp h
  obtain ⟨lt, found, _⟩ := List.findIdx?_eq_some_iff_getElem.mp hi
  have small : i < 256 := Nat.lt_of_lt_of_le lt size
  have at_i : (UInt8.ofNat i).toNat = i := by
    simp only [UInt8.toNat_ofNat']
    exact Nat.mod_eq_of_lt small
  rw [character?, at_i, List.getElem?_eq_getElem lt, eq_of_beq found]
  rfl

def empty : CodePage := ⟨List.replicate 256 none⟩

def ascii : CodePage := empty.run 0x00 0x00 128

def latin1 : CodePage := empty.run 0x00 0x00 256

end CodePage

end JsonDesk
