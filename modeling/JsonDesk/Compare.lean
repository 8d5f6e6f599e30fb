import JsonDesk.Verdict

/-!
Comparing two documents by structure.  A difference has a location, which is a way from the root
through names and positions; its path is how the location is shown.
-/

set_option autoImplicit false

namespace JsonDesk

inductive Step
  | key (name : Text)
  | index (i : Nat)
deriving DecidableEq

/-- A path, continued by a name.  The first name stands without a point in front. -/
def childPath (path name : Text) : Text :=
  if path = [] then name else path ++ "." ++ name

def indexPath (path : Text) (i : Nat) : Text := path ++ "[" ++ Text.ofNat i ++ "]"

def Step.extend (path : Text) : Step → Text
  | key name => childPath path name
  | index i => indexPath path i

inductive Change
  | added (right : Json)
  | removed (left : Json)
  | changed (left right : Json)

/-- A difference; the steps of its location are listed from the root on. -/
structure Difference where
  location : List Step
  change : Change

def Difference.path (base : Text) (d : Difference) : Text := d.location.foldl Step.extend base

namespace Json

def lone (change : Json → Change) (way : List Step) :
    Nat → List Json → List Difference → List Difference
  | _, [], done => done
  | i, v :: vs, done =>
    lone change way (i + 1) vs (⟨(.index i :: way).reverse, change v⟩ :: done)

def fresh (way : List Step) (left : Members) : Members → List Difference → List Difference
  | [], done => done
  | (name, v) :: ms, done =>
    match left.get? name with
    | some _ => fresh way left ms done
    | none => fresh way left ms (⟨(.key name :: way).reverse, .added v⟩ :: done)

mutual

/-- Collects the differences of two values, the latest in front; `way` leads from the values back
to the root. -/
def compareOnto (way : List Step) (done : List Difference) : (left right : Json) → List Difference
  | arr vs, arr ws => compareItems way 0 done vs ws
  | obj ms, obj ns => fresh way ms ns (compareMembers way ns done ms)
  | v, w =>
    if v.kind = w.kind ∧ sameScalar v w then done
    else ⟨way.reverse, .changed v w⟩ :: done

def compareItems (way : List Step) (i : Nat) (done : List Difference) :
    (left right : List Json) → List Difference
  | [], ws => lone .added way i ws done
  | v :: vs, [] => lone .removed way i (v :: vs) done
  | v :: vs, w :: ws =>
    compareItems way (i + 1) (compareOnto (.index i :: way) done v w) vs ws

def compareMembers (way : List Step) (right : Members) (done : List Difference) :
    (left : List (Text × Json)) → List Difference
  | [] => done
  | (name, v) :: ms =>
    match right.get? name with
    | none =>
      compareMembers way right (⟨(.key name :: way).reverse, .removed v⟩ :: done) ms
    | some w => compareMembers way right (compareOnto (.key name :: way) done v w) ms

end

/-- The differences of two values: along the left value, then what the right one has besides. -/
def differences (left right : Json) : List Difference := (compareOnto [] [] left right).reverse

end Json

/-- The differences of two documents; there are none if either is invalid. -/
def compare [StackRoom] (left right : Text) : List Difference :=
  match validate left, validate right with
  | .valid v, .valid w => v.differences w
  | _, _ => []

end JsonDesk
