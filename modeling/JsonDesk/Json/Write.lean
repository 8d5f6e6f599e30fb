import JsonDesk.Json.Value
import JsonDesk.Number.Written
import JsonDesk.Text.Quoted

/-!
Writing values.  The writer keeps the text written so far in reverse, so that a document of any
width needs stack for its depth alone.
-/

set_option autoImplicit false

namespace JsonDesk

inductive Layout
  | compact
  | spaced
  | indented (width : Nat)
deriving DecidableEq

namespace Layout

/-- What stands before the first item and before the closing bracket of a container. -/
def lineBreak (layout : Layout) (depth : Nat) : Text :=
  match layout with
  | .indented width => '\n' :: List.replicate (width * depth) (CodePoint.ofChar ' ')
  | _ => []

def separator (layout : Layout) (depth : Nat) : Text :=
  match layout with
  | .compact => ","
  | .spaced => ", "
  | .indented _ => ',' :: lineBreak layout depth

def colon : Layout → Text
  | .compact => ":"
  | _ => ": "

end Layout

structure Style where
  layout : Layout
  null : Text
  yes : Text
  no : Text
  double : Double → Text
  string : Text → Text

namespace Json

def escapeUnit (n : Nat) : Text := "\\u" ++ Text.hex 4 n

/-- A code point between quotes.  Quotes, backslashes and controls are always escaped. -/
def writtenPoint (ascii : Bool) (c : CodePoint) : Text :=
  if c = '"' then "\\\""
  else if c = '\\' then "\\\\"
  else if c = '\n' then "\\n"
  else if c = '\r' then "\\r"
  else if c = '\t' then "\\t"
  else if c.val = 8 then "\\b"
  else if c.val = 12 then "\\f"
  else if c.val < 0x20 then escapeUnit c.val
  else if c.val < 0x7F ∨ !ascii then [c]
  else if c.val < 0x10000 then escapeUnit c.val
  else
    escapeUnit (0xD800 + (c.val - 0x10000) / 0x400)
      ++ escapeUnit (0xDC00 + (c.val - 0x10000) % 0x400)

def push (done t : Text) : Text := t.foldl (fun done c => c :: done) done

/-- A string in double quotes, everything outside printable ASCII being escaped if asked for. -/
def writtenString (ascii : Bool) (t : Text) : Text :=
  '"' :: (t.flatMap (writtenPoint ascii) ++ "\"")

/-- Doubles that are not finite are written as words that are no numbers of the format. -/
def writtenDouble : Double → Text
  | .nan => "NaN"
  | .infinite s => Double.sign s ++ "Infinity"
  | d => d.written

def documentStyle (layout : Layout) (ascii : Bool) : Style :=
  ⟨layout, "null", "true", "false", writtenDouble, writtenString ascii⟩

def displayStyle : Style := ⟨.spaced, "None", "True", "False", Double.written, Text.quoted⟩

mutual

def pushValue (style : Style) (depth : Nat) (done : Text) : Json → Text
  | null => push done style.null
  | bool b => push done (if b then style.yes else style.no)
  | int i => push done (Text.ofInt i)
  | float d => push done (style.double d)
  | str t => push done (style.string t)
  | arr [] => push done "[]"
  | arr (v :: vs) =>
    let first := pushValue style (depth + 1)
      (push ('[' :: done) (style.layout.lineBreak (depth + 1))) v
    ']' :: push (pushItems style (depth + 1) first vs) (style.layout.lineBreak depth)
  | obj [] => push done "\x7b\x7d"
  | obj ((name, v) :: ms) =>
    let first := pushValue style (depth + 1)
      (push (push (push ('\x7b' :: done) (style.layout.lineBreak (depth + 1)))
        (style.string name)) style.layout.colon) v
    '\x7d' :: push (pushMembers style (depth + 1) first ms) (style.layout.lineBreak depth)

/-- The items after the first, each behind a separator. -/
def pushItems (style : Style) (depth : Nat) (done : Text) : List Json → Text
  | [] => done
  | v :: vs =>
    pushItems style depth
      (pushValue style depth (push done (style.layout.separator depth)) v) vs

def pushMembers (style : Style) (depth : Nat) (done : Text) : List (Text × Json) → Text
  | [] => done
  | (name, v) :: ms =>
    pushMembers style depth
      (pushValue style depth
        (push (push (push done (style.layout.separator depth)) (style.string name))
          style.layout.colon) v) ms

end

def write (style : Style) (v : Json) : Text := (pushValue style 0 [] v).reverse

/-- A value as it is shown inside a message: a string on its own stands without quotes. -/
def display : Json → Text
  | str t => t
  | v => write displayStyle v

def rendered (v : Json) : Text := write (documentStyle .compact true) v

mutual

def nonFinite? : Json → Option Double
  | float d => if d.isFinite then none else some d
  | arr vs => nonFiniteItem? vs
  | obj ms => nonFiniteMember? ms
  | _ => none

def nonFiniteItem? : List Json → Option Double
  | [] => none
  | v :: vs =>
    match nonFinite? v with
    | some d => some d
    | none => nonFiniteItem? vs

def nonFiniteMember? : List (Text × Json) → Option Double
  | [] => none
  | (_, v) :: ms =>
    match nonFinite? v with
    | some d => some d
    | none => nonFiniteMember? ms

end

end Json

end JsonDesk
