import JsonDesk.Text

set_option autoImplicit false

namespace JsonDesk

/-- The white space of Unicode 14, separators and spacing controls alike. -/
def CodePoint.isBlank (c : CodePoint) : Bool :=
  let n := c.val
  (9 ≤ n && n ≤ 13) || (0x1C ≤ n && n ≤ 0x20) || n == 0x85 || n == 0xA0 || n == 0x1680 ||
    (0x2000 ≤ n && n ≤ 0x200A) || n == 0x2028 || n == 0x2029 || n == 0x202F || n == 0x205F ||
    n == 0x3000

def CodePoint.byteOrderMark : CodePoint := ⟨0xFEFF, by decide⟩

namespace Text

def strip (t : Text) : Text := t.trim CodePoint.isBlank

def stripRight (t : Text) : Text := t.dropRightWhile CodePoint.isBlank

def isSpace (t : Text) : Bool := t.all CodePoint.isBlank

/-- Nothing but white space and byte order marks. -/
def isBlank (t : Text) : Bool :=
  t.all fun c => c.isBlank || c = CodePoint.byteOrderMark

end Text

end JsonDesk
