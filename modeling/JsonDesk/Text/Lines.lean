import JsonDesk.Text

set_option autoImplicit false

namespace JsonDesk

structure Position where
  line : Nat
  column : Nat
deriving DecidableEq

namespace Text

def lines (t : Text) : List Text := t.splitOn '\n'

/-- The position just after a stretch of text that starts at the beginning of a document. -/
def endPosition (t : Text) : Position :=
  t.foldl
    (fun (p : Position) (c : CodePoint) =>
      if c = '\n' then ⟨p.line + 1, 1⟩ else ⟨p.line, p.column + 1⟩)
    ⟨1, 1⟩

/-- The position of an offset; offsets outside the text count as its nearest end. -/
def positionAt (t : Text) (offset : Int) : Position := endPosition (t.take offset.toNat)

/-- Carriage returns, alone or before a line feed, become line feeds. -/
def unifyLineEnds (t : Text) : Text := go t []
where
  go : Text → Text → Text
  | [], done => done.reverse
  | [c], done => ((if c = '\r' then CodePoint.ofChar '\n' else c) :: done).reverse
  | c :: d :: t, done =>
    if c = '\r' then
      if d = '\n' then go t (CodePoint.ofChar '\n' :: done)
      else go (d :: t) (CodePoint.ofChar '\n' :: done)
    else go (d :: t) (c :: done)

theorem lines_ne_nil (t : Text) : t.lines ≠ [] := splitOn_ne_nil _ t

end Text

end JsonDesk
