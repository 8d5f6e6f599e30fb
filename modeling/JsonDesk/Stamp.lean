import JsonDesk.Json.Convert

set_option autoImplicit false

namespace JsonDesk

structure Stamp where
  year : Nat
  month : Nat
  day : Nat
  hour : Nat
  minute : Nat
  second : Nat
deriving DecidableEq

namespace Stamp

def text (s : Stamp) : Text :=
  let two := Text.ofNatPadded 2
  Text.ofNat s.year ++ "-" ++ two s.month ++ "-" ++ two s.day ++ " " ++ two s.hour ++ ":"
    ++ two s.minute ++ ":" ++ two s.second

/-- Every fourth year has a day more, but of the full centuries only every fourth one. -/
def isLeap (year : Int) : Bool := year % 4 = 0 ∧ (year % 100 ≠ 0 ∨ year % 400 = 0)

def daysIn (year month : Int) : Int :=
  if month = 2 then if isLeap year then 29 else 28
  else if month = 4 ∨ month = 6 ∨ month = 9 ∨ month = 11 then 30
  else 31

/-- The stamp of numbers, unless there is no such day or time. -/
def ofNumbers (year month day hour minute second : Int) : Except Failure Stamp :=
  if year < 1 ∨ 9999 < year then .error (.outOfCalendar (.year year))
  else if month < 1 ∨ 12 < month then .error (.outOfCalendar .month)
  else if day < 1 ∨ daysIn year month < day then .error (.outOfCalendar .day)
  else if hour < 0 ∨ 23 < hour then .error (.outOfCalendar .hour)
  else if minute < 0 ∨ 59 < minute then .error (.outOfCalendar .minute)
  else if second < 0 ∨ 59 < second then .error (.outOfCalendar .second)
  else .ok ⟨year.toNat, month.toNat, day.toNat, hour.toNat, minute.toNat, second.toNat⟩

def number : Json → Except Failure Int
  | .int n => .ok n
  | .bool b => .ok (if b then 1 else 0)
  | v => .error (.notAnIndex v.typeName)

/-- A stamp from loosely typed fields, of which those for the time may be left out. -/
def ofFields (fields : List Json) : Except Failure Stamp := do
  let required (index : Nat) (name : Text) : Except Failure Int :=
    match fields[index]? with
    | some v => number v
    | none => .error (.wrongType ("function missing required argument '" ++ name ++ "' (pos "
        ++ Text.ofNat (index + 1) ++ ")"))
  let optional (index : Nat) : Except Failure Int :=
    match fields[index]? with
    | some v => number v
    | none => .ok 0
  ofNumbers (← required 0 "year") (← required 1 "month") (← required 2 "day") (← optional 3)
    (← optional 4) (← optional 5)

end Stamp

end JsonDesk
