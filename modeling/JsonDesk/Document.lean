import JsonDesk.Text.Blank
import JsonDesk.Text.Letter
import JsonDesk.Session

set_option autoImplicit false

namespace JsonDesk

/-- Code points that cannot stand in a file name everywhere. -/
def CodePoint.isUnsafe (c : CodePoint) : Bool :=
  c.val < 0x20 || (Text.ofString "\\/:*?\"<>|").elem c

namespace Text

/-- Puts one underscore in place of every run of unsafe code points. -/
def maskUnsafe (t : Text) : Text := go t false []
where
  go : Text → (inRun : Bool) → Text → Text
  | [], _, done => done.reverse
  | c :: t, inRun, done =>
    if c.isUnsafe then go t true (if inRun then done else '_' :: done) else go t false (c :: done)

def downloadName (name : Text) : Text :=
  let stem := (maskUnsafe name.strip).trim fun c => c = ' ' || c = '.'
  let stem := if stem = [] then untitled else stem
  if stem.lower.endsWith ".json" then stem else stem ++ ".json"

/-- The text that is saved: the document with a line feed at its end, unless it is empty. -/
def savePayload (t : Text) : Text :=
  if t = [] ∨ t.endsWith "\n" then t else t ++ "\n"

end Text

end JsonDesk
