import JsonDesk.Text.Lines

set_option autoImplicit false

namespace JsonDesk

inductive Bracket
  | brace | square
deriving DecidableEq

namespace Bracket

def opener : Bracket → CodePoint
  | brace => '\x7b'
  | square => '['

def closer : Bracket → CodePoint
  | brace => '\x7d'
  | square => ']'

def ofOpener? (c : CodePoint) : Option Bracket :=
  if c = '\x7b' then some brace else if c = '[' then some square else none

def ofCloser? (c : CodePoint) : Option Bracket :=
  if c = '\x7d' then some brace else if c = ']' then some square else none

def name : Bracket → Text
  | brace => "brace"
  | square => "bracket"

theorem ofOpener?_opener (b : Bracket) : ofOpener? b.opener = some b := by
  cases b <;> decide

theorem ofCloser?_closer (b : Bracket) : ofCloser? b.closer = some b := by
  cases b <;> decide

/-- The name of a delimiter given as a text; whatever occurs in a pair of braces is called a
brace. -/
def nameOf (t : Text) : Text := if Text.contains "\x7b\x7d" t then name brace else name square

end Bracket

inductive Hint
  | closeString
  | addComma (line : Nat)
  | addColon
  | removeComma (before : Bracket)
  | duplicateKey (key : Text) (firstLine : Nat)
  | unexpectedCloser (found : Bracket)
  | mismatch (opened found : Bracket) (openedLine : Nat)
  | unclosed (opened : Bracket)
  | lookHere
  | lookAround
deriving DecidableEq

def Hint.text : Hint → Text
  | .closeString => "Add closing quote (\") at the end of the string"
  | .addComma line => "Add comma (,) at the end of line " ++ Text.ofNat line
  | .addColon => "Add colon (:) after the property name"
  | .removeComma before =>
    "Remove trailing comma - not allowed before closing " ++ before.name
  | .duplicateKey key line =>
    "Duplicate key \"" ++ key ++ "\" - first occurrence was at line " ++ Text.ofNat line
  | .unexpectedCloser found =>
    "Unexpected closing " ++ found.name ++ " - no matching opening"
  | .mismatch opened found line =>
    "Mismatched bracket - expected '" ++ [opened.closer] ++ "' but found '" ++ [found.closer]
      ++ "'. Opening " ++ [opened.opener] ++ " was at line " ++ Text.ofNat line
  | .unclosed opened => "Unclosed " ++ opened.name ++ " - add closing " ++ [opened.closer]
  | .lookHere => "Check syntax at this location"
  | .lookAround => "Check your JSON syntax."

theorem Hint.text_ne_nil (h : Hint) : h.text ≠ [] := by
  cases h <;> simp [Hint.text, Text.ofString]

inductive Place
  | unknown
  | line (n : Nat)
  | point (p : Position)
deriving DecidableEq

namespace Place

def line? : Place → Option Nat
  | unknown => none
  | line n => some n
  | point p => some p.line

def column? : Place → Option Nat
  | point p => some p.column
  | _ => none

theorem line?_of_column? {p : Place} {c : Nat} (h : p.column? = some c) :
    ∃ l, p.line? = some l := by
  cases p <;> simp_all [column?, line?]

end Place

structure Diagnosis where
  place : Place
  hint : Hint
deriving DecidableEq

end JsonDesk
