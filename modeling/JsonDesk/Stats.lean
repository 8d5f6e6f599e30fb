import JsonDesk.Text.Utf8
import JsonDesk.Reshape

set_option autoImplicit false

namespace JsonDesk

/-- The units in which sizes are shown, each 1024 times the one before. -/
def sizeUnits : List Text := ["B", "KB", "MB"]

namespace Double

def reaches (d : Double) (steps : Nat) : Bool :=
  match d with
  | finite s .. => !s && decide (Nat.pow 2 (unitPlaces + 10 * steps) ≤ d.units)
  | infinite s => !s
  | nan => false

/-- A size with one decimal in the largest unit that it reaches; a decimal of zero is left out. -/
def sizeText (d : Double) : Text :=
  let steps := if d.reaches 2 then 2 else if d.reaches 1 then 1 else 0
  let number := d.fixed 1 (10 * steps)
  let number := if number.endsWith ".0" then number.take (number.length - 2) else number
  number ++ " " ++ sizeUnits.getD steps []

end Double

def formatBytes (n : Nat) : Text :=
  if n = 0 then "0 B" else (Double.ofRatio false n 1).sizeText

def formatBytesLoose (v : Json) : Except Failure Text :=
  match v.numeric? with
  | none => .error (.notComparable "<=" v.typeName "int")
  | some (.int i) =>
    if i ≤ 0 then .ok "0 B"
    else match Double.ofInt? i with
      | some d => .ok d.sizeText
      | none => .error .doubleOverflow
  | some (.float d) => .ok (if d.notPositive then "0 B" else d.sizeText)

namespace Json

def children : Json → List Json
  | arr vs => vs
  | obj ms => ms.map (·.2)
  | _ => []

def nameCount : Json → Nat
  | obj ms => ms.length
  | _ => 0

/-- The size of several values together, as a bound for going through them. -/
noncomputable def totalSize : List Json → Nat
  | [] => 0
  | v :: vs => sizeOf v + totalSize vs

theorem totalSize_append (vs ws : List Json) :
    totalSize (vs ++ ws) = totalSize vs + totalSize ws := by
  induction vs with
  | nil => simp [totalSize]
  | cons v vs ih => simp only [List.cons_append, totalSize, ih]; omega

theorem totalSize_reverse (vs : List Json) : totalSize vs.reverse = totalSize vs := by
  induction vs with
  | nil => rfl
  | cons v vs ih =>
    rw [List.reverse_cons, totalSize_append, ih]
    simp only [totalSize]
    omega

theorem totalSize_items_lt (vs : List Json) : totalSize vs < sizeOf vs := by
  induction vs with
  | nil => simp [totalSize]
  | cons v vs ih => simp only [totalSize, List.cons.sizeOf_spec]; omega

theorem totalSize_members_lt (ms : List (Text × Json)) : totalSize (ms.map (·.2)) < sizeOf ms := by
  induction ms with
  | nil => simp [totalSize]
  | cons m ms ih =>
    obtain ⟨n, v⟩ := m
    simp only [List.map_cons, totalSize, List.cons.sizeOf_spec, Prod.mk.sizeOf_spec]
    omega

theorem totalSize_children_lt (v : Json) : totalSize v.children < sizeOf v := by
  cases v with
  | arr vs =>
    have h := totalSize_items_lt vs
    simp only [children, arr.sizeOf_spec]; omega
  | obj ms =>
    have h := totalSize_members_lt ms
    simp only [children, obj.sizeOf_spec]; omega
  | null => exact Nat.zero_lt_one
  | _ => exact Nat.lt_add_right _ Nat.zero_lt_one

end Json

structure Stats where
  keys : Int
  depth : Int
  size : Text
deriving DecidableEq

namespace Stats

/-- Goes through the values that are still to be looked at, each with its depth, adding up names
and keeping the greatest depth.  The list is a stack with its top in front: of the values in a
container the last is looked at first. -/
def tally : (pending : List (Json × Nat)) → (keys depth : Nat) → Nat × Nat
  | [], keys, depth => (keys, depth)
  | (v, d) :: rest, keys, depth =>
    tally ((v.children.map (·, d + 1)).reverse ++ rest) (keys + v.nameCount) (max depth d)
termination_by pending => Json.totalSize (pending.map (·.1))
decreasing_by
  have h := Json.totalSize_children_lt v
  have e : (v.children.map (·, d + 1)).map (·.1) = v.children := by
    rw [List.map_map]; exact List.map_id _
  simp only [List.map_append, List.map_cons, List.map_reverse, Json.totalSize,
    Json.totalSize_append, Json.totalSize_reverse, e]
  omega

/-- The statistics of a text.  The size is always that of the raw text. -/
def ofText [StackRoom] (text : Text) : Stats :=
  let size := formatBytes text.utf8Length
  match (validate text).value? with
  | none => ⟨0, 0, size⟩
  | some v =>
    let (keys, depth) := tally [(v, 0)] 0 0
    ⟨keys, depth, size⟩

/-- The statistics of a loosely typed document, whose size is that of a value that may count as
absent. -/
def ofLoose [StackRoom] (v : Json) : Stats :=
  { ofText v.document with size := formatBytes v.orEmpty.utf8Length }

def text (s : Stats) : Text :=
  "Keys: " ++ Text.ofInt s.keys ++ " | Depth: " ++ Text.ofInt s.depth ++ " | Size: " ++ s.size

end Stats

end JsonDesk
