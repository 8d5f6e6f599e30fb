import JsonDesk.Settings

set_option autoImplicit false

namespace JsonDesk

structure Tab where
  id : Text
  name : Text
  content : Text
deriving DecidableEq

def untitled : Text := "Untitled"

namespace Tab

def toMembers (t : Tab) : Members :=
  [("id", .str t.id), ("name", .str t.name), ("content", .str t.content)]

def blank (id : Text) : Tab := ⟨id, untitled, []⟩

/-- A tab from given fields; those that are missing have their defaults, a fresh id among them. -/
def ofFields (fresh : Text) (ms : Members) : Except Failure Tab := do
  ms.allKnown "DocumentTab" ["id", "name", "content"]
  let text (name : String) (other : Text) : Text := ((ms.get? name).map Json.display).getD other
  return ⟨text "id" fresh, text "name" untitled, text "content" []⟩

def listOfFields (fresh : Nat → Text) : Nat → List Members → Except Failure (List Tab)
  | _, [] => .ok []
  | n, ms :: rest => do return (← ofFields (fresh n) ms) :: (← listOfFields fresh (n + 1) rest)

end Tab

/-- The list of tabs is its first tab and the others. -/
structure Session where
  first : Tab
  others : List Tab
  activeId : Text
deriving DecidableEq

namespace Session

def tabs (s : Session) : List Tab := s.first :: s.others

def find? (s : Session) (id : Text) : Option Tab := s.tabs.find? fun t => t.id = id

def indexOf? (s : Session) (id : Text) : Option Nat := s.tabs.findIdx? fun t => t.id = id

/-- A session of given tabs, or of one blank tab if there are none.  The first tab is active unless
another is named. -/
def ofTabs (fresh : Text) (tabs : List Tab) (activeId : Text) : Session :=
  let s : Session := match tabs with
    | [] => ⟨.blank fresh, [], activeId⟩
    | t :: ts => ⟨t, ts, activeId⟩
  match s.find? activeId with
  | some _ => s
  | none => { s with activeId := s.first.id }

/-- The active tab; the first one stands in for an id that no tab has. -/
def activeTab (s : Session) : Tab := (s.find? s.activeId).getD s.first

def activate (s : Session) (id : Text) : Session :=
  match s.find? id with
  | some _ => { s with activeId := id }
  | none => s

def modifyTab (id : Text) (f : Tab → Tab) : List Tab → List Tab
  | [] => []
  | t :: ts => if t.id = id then f t :: ts else t :: modifyTab id f ts

def modify (s : Session) (id : Text) (f : Tab → Tab) : Session :=
  if s.first.id = id then { s with first := f s.first }
  else { s with others := modifyTab id f s.others }

/-- The first of `Untitled`, `Untitled 2`, `Untitled 3` and so on that is not among the names.
With every number tried one name less is left that could stand in the way. -/
def untitledName (names : List Text) : Text :=
  if names.contains untitled then go 2 names.length else untitled
where
  candidate (k : Nat) : Text := untitled ++ " " ++ Text.ofNat k
  go (k : Nat) : (left : Nat) → Text
  | 0 => candidate k
  | left + 1 => if names.contains (candidate k) then go (k + 1) left else candidate k

def add (s : Session) (id name content : Text) : Session :=
  let clean := name.strip
  let name := if clean = [] then untitledName (s.tabs.map (·.name)) else clean
  { s with others := s.others ++ [⟨id, name, content⟩], activeId := id }

/-- Closes a tab.  If it was the active one, the tab that followed it becomes active, or else the
new last one.  An only tab is emptied instead. -/
def close (s : Session) (id : Text) : Session :=
  match s.indexOf? id with
  | none => s
  | some i =>
    match s.tabs.eraseIdx i with
    | [] => { s with first := .blank s.first.id, activeId := s.first.id }
    | t :: ts =>
      let next := (t :: ts).getD (min i ts.length) t
      ⟨t, ts, if id = s.activeId then next.id else s.activeId⟩

/-- Renames a tab; a blank name is refused. -/
def rename (s : Session) (id name : Text) : Option Session :=
  match s.find? id with
  | none => none
  | some _ =>
    if name.strip = [] then none
    else some (s.modify id fun t => { t with name := name.strip })

def update (s : Session) (id content : Text) : Session :=
  s.modify id fun t => { t with content := content }

def toMembers (s : Session) : Members :=
  [("tabs", .arr (s.tabs.map fun t => .obj t.toMembers)), ("active_id", .str s.activeId)]

def fileText (s : Session) : Text := (Json.obj s.toMembers).write (Json.documentStyle .spaced true)

/-- The tabs of a list of records.  A missing id, or one that was seen before, is replaced by a
fresh one; whatever is not a record is skipped. -/
def tabsOf (fresh : Nat → Text) : Nat → (seen : List Text) → List Json → List Tab
  | _, _, [] => []
  | n, seen, .obj ms :: rest =>
    let wanted := (Json.field ms "id").orEmpty.strip
    let id := if wanted ≠ [] ∧ ¬ seen.contains wanted then wanted else fresh n
    ⟨id, (Json.field ms "name").orText untitled, (Json.field ms "content").orEmpty⟩
      :: tabsOf fresh (n + 1) (id :: seen) rest
  | n, seen, _ :: rest => tabsOf fresh n seen rest

/-- The session in a loosely typed value; what is not a record is an empty session. -/
def ofJson (fresh : Nat → Text) (v : Json) : Except Failure Session :=
  match v with
  | .obj ms => do
    let raws ← match Json.field ms "tabs" with
      | w => if w.truthy then w.iterate else .ok []
    let tabs := tabsOf fresh 0 [] raws
    return ofTabs (fresh tabs.length) tabs (Json.field ms "active_id").orEmpty
  | _ => .ok (ofTabs (fresh 0) [] [])

end Session

end JsonDesk
