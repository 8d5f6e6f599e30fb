import JsonDesk.Diagnosis
import JsonDesk.Text.Blank
import JsonDesk.Text.Digit

/-!
Checks that look at the lines of a document.  They judge a line by its ends, without knowing
whether it starts inside a string, and each reports the first line that it finds fault with.
-/

set_option autoImplicit false

namespace JsonDesk

namespace Text

/-- The double quotes that no backslash in front takes away. -/
def unescapedQuotes (line : Text) : Nat := go line false 0
where
  go : Text → (escaped : Bool) → Nat → Nat
  | [], _, n => n
  | _ :: t, true, n => go t false n
  | c :: t, false, n =>
    if c = '\\' then go t true n else if c = '"' then go t false (n + 1) else go t false n

def endsWithAny (t : Text) (ends : List Text) : Bool := ends.any t.endsWith

def endsLikeValue (t : Text) : Bool :=
  t.endsWithAny ["\"", "\x7d", "]"] ||
    (t.getLast?.any fun (c : CodePoint) => c.isDecimal || c = '.') ||
    t.endsWithAny ["true", "false", "null"]

def isQuotedName : Text → Bool
  | [] => false
  | c :: t =>
    c = '"' &&
      match (t.reverse : Text) with
      | d :: d' :: name => d = '"' && d' != '"' && name.all (· != CodePoint.ofChar '"')
      | _ => false

def keyBeforeColon? : Text → Option Text
  | [] => none
  | c :: t =>
    if c = '"' then
      let name := t.takeWhile (· != CodePoint.ofChar '"')
      let after := (t.dropWhile (· != CodePoint.ofChar '"')).drop 1
      if name ≠ [] ∧ (after.dropWhile CodePoint.isBlank).head? = some (CodePoint.ofChar ':') then
        some name
      else keyBeforeColon? t
    else keyBeforeColon? t

end Text

namespace Diagnosis

/-- Judges each line together with the line after it. -/
def firstPair (judge : (line : Nat) → (current next : Text) → Option Diagnosis) :
    Nat → List Text → Option Diagnosis
  | n, current :: next :: rest =>
    (judge n current next).orElse fun _ => firstPair judge (n + 1) (next :: rest)
  | _, _ => none

def unterminatedString (lines : List Text) : Option Diagnosis := go 1 lines
where
  go : Nat → List Text → Option Diagnosis
  | _, [] => none
  | n, line :: rest =>
    if line.unescapedQuotes % 2 = 1 then some ⟨.point ⟨n, line.length⟩, .closeString⟩
    else go (n + 1) rest

def missingComma (lines : List Text) : Option Diagnosis :=
  firstPair
    (fun n current next =>
      let line := current.strip
      if line = [] ∨ line.startsWith "//" ∨ line.endsWithAny [",", "\x7b", "["] then none
      else if line.endsLikeValue ∧ next.strip.startsWith "\"" then
        some ⟨.point ⟨n, current.length⟩, .addComma n⟩
      else none)
    1 lines

/-- A quoted name alone on its line, with no colon on it or before the next line. -/
def missingColon (lines : List Text) : Option Diagnosis :=
  firstPair
    (fun n current next =>
      let line := current.strip
      if line.isQuotedName ∧ ¬ next.strip.startsWith ":" ∧ ¬ line.contains ":" then
        some ⟨.line n, .addColon⟩
      else none)
    1 lines

/-- A comma at the end of a line before a line that is just a closing delimiter. -/
def trailingComma (lines : List Text) : Option Diagnosis :=
  firstPair
    (fun n current next =>
      if current.strip.endsWith "," then
        match next.strip with
        | [c] => (Bracket.ofCloser? c).map fun b => ⟨.line n, .removeComma b⟩
        | _ => none
      else none)
    1 lines

/-- A name with a colon that an earlier line has too.  The first name of each line counts. -/
def duplicateKey (lines : List Text) : Option Diagnosis := go 1 lines []
where
  go : Nat → List Text → List (Text × Nat) → Option Diagnosis
  | _, [], _ => none
  | n, line :: rest, seen =>
    match line.keyBeforeColon? with
    | none => go (n + 1) rest seen
    | some key =>
      match seen.lookup key with
      | some first => some ⟨.line n, .duplicateKey key first⟩
      | none => go (n + 1) rest ((key, n) :: seen)

end Diagnosis

end JsonDesk
