import JsonDesk.Text.Lines

/-!
Paths as texts.  Nothing here looks at a disk: names are cut off, joined and cleared of detours by
the slashes alone.
-/

set_option autoImplicit false

namespace JsonDesk.Path

/-- What stands between the slashes. -/
def pieces (p : Text) : List Text := p.splitOn '/'

def isAbsolute (p : Text) : Bool := p.startsWith "/"

/-- The last name of a path, empty after a slash at the end. -/
def base (p : Text) : Text := (pieces p).getLastD []

/-- The path before the last name, without slashes at its end unless there is nothing else. -/
def directory (p : Text) : Text :=
  let head := p.take (p.length - (base p).length)
  if head.all (· = CodePoint.ofChar '/') then head
  else Text.dropRightWhile (· = CodePoint.ofChar '/') head

/-- One path after another; an absolute one starts anew. -/
def join (p q : Text) : Text :=
  if isAbsolute q then q
  else if p = [] ∨ p.endsWith "/" then p ++ q
  else p ++ "/" ++ q

/-- A file name without its extension; points at the start belong to the name. -/
def stem (name : Text) : Text :=
  let leading := name.takeWhile (· = CodePoint.ofChar '.')
  let rest := name.drop leading.length
  match (rest.reverse.dropWhile (· != CodePoint.ofChar '.')) with
  | [] => name
  | _ :: front => leading ++ front.reverse

/-- How many slashes an absolute path starts with: one, unless there are exactly two. -/
def rootSlashes (p : Text) : Nat :=
  if p.startsWith "///" then 1
  else if p.startsWith "//" then 2
  else if p.startsWith "/" then 1
  else 0

/-- The names of an absolute path from the root on, two points taking back the name before. -/
def names (p : Text) : List Text :=
  ((pieces p).foldl
    (fun done piece =>
      if piece = [] ∨ piece = Text.ofString "." then done
      else if piece = Text.ofString ".." then done.drop 1
      else piece :: done)
    []).reverse

def normal (p : Text) : Text :=
  List.replicate (rootSlashes p) (CodePoint.ofChar '/') ++ Text.join "/" (names p)

def absolute (working p : Text) : Text := normal (if isAbsolute p then p else join working p)

/-- Whether an absolute path without detours is another one or lies below it. -/
def isUnder (home p : Text) : Bool :=
  let common := ((names home).zip (names p)).takeWhile fun n => n.1 == n.2
  "/" ++ Text.join "/" (common.map (·.1)) == home

end JsonDesk.Path
