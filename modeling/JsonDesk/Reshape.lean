import JsonDesk.Verdict

/-!
Reshaping documents: another layout, or the members of every object in the order of their names.
Only usable documents are reshaped; invalid ones, blank ones and the null document stay as they
are, and so does a document with a number that cannot be written.  An indent of more blanks than an
index can count is a failure even where none of them would have been written.
-/

set_option autoImplicit false

namespace JsonDesk

/-- An indent of at least one spreads a document over lines; any other leaves out all blanks. -/
def Layout.ofIndent : Option Int → Layout
  | none => .compact
  | some n => if n ≤ 0 then .compact else .indented n.toNat

namespace Layout

/-- The least number of blanks that is not an index of a machine. -/
def indexLimit : Nat := 0x8000000000000000

/-- What keeps the blanks of one indent from being made: their number.  Memory is taken to hold any
text. -/
def obstacle? : Layout → Option Failure
  | .indented width => if indexLimit ≤ width then some .notIndexSized else none
  | _ => none

end Layout

namespace Json

/-- What keeps a value from being written into a document: an indent that cannot be made, which a
mere string does without, or else a number that is not finite. -/
def obstacle? (layout : Layout) : Json → Option Failure
  | str _ => none
  | v => layout.obstacle?.or
      (v.nonFinite?.map fun d => .outOfRange (if layout = .compact then none else some d))

/-- The text of a value in a document.  All of it is escaped as soon as one surrogate would have to
stand for itself, so that the text can always be saved. -/
def inLayout (layout : Layout) (v : Json) : Text :=
  let raw := write (documentStyle layout false) v
  if raw.any CodePoint.isSurrogate then write (documentStyle layout true) v else raw

/-- The text of a value as it is put into a document, if nothing keeps it from being written. -/
def serialize (v : Json) (indent : Option Int) : Except Failure Text :=
  match v.obstacle? (.ofIndent indent) with
  | some failure => .error failure
  | none => .ok (v.inLayout (.ofIndent indent))

theorem kind_of_serialize_compact {v : Json} {e : Failure} (h : v.serialize none = .error e) :
    e.kind = .value := by
  unfold serialize at h
  split at h
  · rename_i failure blocked
    cases h
    unfold obstacle? at blocked
    split at blocked
    · cases blocked
    · simp only [Layout.ofIndent, Layout.obstacle?, Option.none_or,
        Option.map_eq_some_iff] at blocked
      obtain ⟨d, _, rfl⟩ := blocked
      rfl
  · cases h

def defaultIndent : Int := 2

/-- An indent from a loosely typed value; null asks for none. -/
def indent : Json → Except Failure (Option Int)
  | null => .ok none
  | v => v.toInt.map some

mutual

/-- The same value with the members of every object in ascending order of their names. -/
def sortNames : Json → Json
  | arr vs => .arr (sortItems [] vs)
  | obj ms => .obj ((sortMembers [] ms).mergeSort fun m n => Text.le m.1 n.1)
  | v => v

def sortItems (done : List Json) : List Json → List Json
  | [] => done.reverse
  | v :: vs => sortItems (sortNames v :: done) vs

def sortMembers (done : List (Text × Json)) : List (Text × Json) → List (Text × Json)
  | [] => done.reverse
  | (name, v) :: ms => sortMembers ((name, sortNames v) :: done) ms

end

end Json

inductive Reshape
  | keep
  | sortNames
deriving DecidableEq

namespace Reshape

def apply : Reshape → Json → Json
  | keep, v => v
  | sortNames, v => v.sortNames

/-- The reshaped text, and nothing for a document that stays as it is because of a number that
cannot be written or an indent that is badly worded.  Other failures are not put up with. -/
def settle : Except Failure Text → Except Failure (Option Text)
  | .ok t => .ok (some t)
  | .error e => if e.kind = .value then .ok none else .error e

/-- The reshaped text, and nothing if the document stays as it is. -/
def run [StackRoom] (r : Reshape) (text : Text) (indent : Option Int) :
    Except Failure (Option Text) :=
  match (validate text).value? with
  | none => .ok none
  | some v => settle ((r.apply v).serialize indent)

theorem run_compact [StackRoom] (r : Reshape) (text : Text) :
    ∃ reshaped, r.run text none = .ok reshaped := by
  unfold run
  cases (validate text).value? with
  | none => exact ⟨none, rfl⟩
  | some v =>
    cases h : (r.apply v).serialize none with
    | ok t => exact ⟨some t, by simp [settle, h]⟩
    | error e => exact ⟨none, by simp [settle, h, Json.kind_of_serialize_compact h]⟩

/-- Reshaping with an indent from outside, which is looked at for usable documents only. -/
def runLoose [StackRoom] (r : Reshape) (text : Text) (indent : Json) :
    Except Failure (Option Text) :=
  match (validate text).value? with
  | none => .ok none
  | some v => settle do (r.apply v).serialize (← indent.indent)

end Reshape

namespace Text

/-- The document in another form, or itself if it stays as it is. -/
def reshape [StackRoom] (t : Text) (r : Reshape) (indent : Option Int) : Except Failure Text :=
  (r.run t indent).map fun reshaped => reshaped.getD t

def format [StackRoom] (t : Text) (indent : Int) : Except Failure Text :=
  t.reshape .keep (some indent)

def sortKeys [StackRoom] (t : Text) (indent : Int) : Except Failure Text :=
  t.reshape .sortNames (some indent)

def minify [StackRoom] (t : Text) : Text := (t.reshape .keep none).toOption.getD t

theorem reshape_keep_none [StackRoom] (t : Text) : t.reshape .keep none = .ok t.minify := by
  obtain ⟨reshaped, h⟩ := Reshape.keep.run_compact t
  simp [minify, reshape, h, Except.map, Except.toOption]

end Text

end JsonDesk
