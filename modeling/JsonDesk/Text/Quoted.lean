import JsonDesk.Text.Printable

set_option autoImplicit false

namespace JsonDesk.Text

/-- The spelling of a code point between the given quotation marks: printable ones stand for
themselves. -/
def quotedPoint (mark c : CodePoint) : Text :=
  if c = mark ∨ c = '\\' then [CodePoint.ofChar '\\', c]
  else if c = '\t' then "\\t"
  else if c = '\n' then "\\n"
  else if c = '\r' then "\\r"
  else if c.isPrintable then [c]
  else if c.val < 0x100 then "\\x" ++ hex 2 c.val
  else if c.val < 0x10000 then "\\u" ++ hex 4 c.val
  else "\\U" ++ hex 8 c.val

/-- Apostrophes are the quotation marks, except around a text that has an apostrophe and no double
quote. -/
def quoteMark (t : Text) : CodePoint := if t.contains "'" ∧ ¬ t.contains "\"" then '"' else '\''

def quoted (t : Text) : Text :=
  [t.quoteMark] ++ t.flatMap (quotedPoint t.quoteMark) ++ [t.quoteMark]

end JsonDesk.Text
