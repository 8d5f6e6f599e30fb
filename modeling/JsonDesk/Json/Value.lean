import JsonDesk.Text
import JsonDesk.Number.Double

/-!
The values of documents.  Integers are exact and kept apart from doubles; an object is the list of
its members in the order in which their names first appeared.
-/

set_option autoImplicit false

namespace JsonDesk

inductive Json
  | null
  | bool (b : Bool)
  | int (i : Int)
  | float (d : Double)
  | str (t : Text)
  | arr (items : List Json)
  | obj (members : List (Text × Json))
deriving Inhabited

namespace Json

inductive Kind
  | null | boolean | number | string | array | object
deriving DecidableEq

def kind : Json → Kind
  | null => .null
  | bool _ => .boolean
  | int _ => .number
  | float _ => .number
  | str _ => .string
  | arr _ => .array
  | obj _ => .object

def Kind.name : Kind → Text
  | .null => "null"
  | .boolean => "boolean"
  | .number => "number"
  | .string => "string"
  | .array => "array"
  | .object => "object"

/-- Equality of scalars by value: an integer may equal a double, and the undefined number is the
same as itself. -/
def sameScalar : Json → Json → Bool
  | null, null => true
  | bool a, bool b => a == b
  | int i, int j => i == j
  | int i, float d => d.equalsInt i
  | float d, int i => d.equalsInt i
  | float .nan, float .nan => true
  | float d, float e => d.equals e
  | str s, str t => s == t
  | _, _ => false

end Json

abbrev Members := List (Text × Json)

namespace Members

def get? : Members → Text → Option Json
  | [], _ => none
  | (n, v) :: ms, name => if n = name then some v else get? ms name

def names (ms : Members) : List Text := ms.map (·.1)

/-- A name that is there already keeps its place and takes the new value. -/
def insert : Members → Text → Json → Members
  | [], name, v => [(name, v)]
  | (n, w) :: ms, name, v => if n = name then (n, v) :: ms else (n, w) :: insert ms name v

/-- Whether a sorted list of names has no name twice. -/
def strictlySorted : List Text → Bool
  | a :: b :: ts => a != b && strictlySorted (b :: ts)
  | _ => true

/-- Collects written members: of members with one name the last value stands at the first place.
Sorting the names tells at once that none is repeated. -/
def ofList (ms : Members) : Members :=
  if strictlySorted (ms.names.mergeSort Text.le) then ms
  else ms.foldl (fun done m => done.insert m.1 m.2) []

theorem get?_insert (ms : Members) (name name' : Text) (v : Json) :
    (ms.insert name v).get? name' = if name = name' then some v else ms.get? name' := by
  induction ms with
  | nil => rfl
  | cons m ms ih =>
    obtain ⟨n, w⟩ := m
    by_cases hn : n = name <;> by_cases h : name = name' <;> simp_all [insert, get?]

end Members

end JsonDesk
