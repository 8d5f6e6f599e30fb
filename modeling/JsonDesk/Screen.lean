import JsonDesk.Text

set_option autoImplicit false

namespace JsonDesk

/-- Commands that a screen may refuse. -/
inductive Command
  | useTheme | clearClipboard | appendClipboard | lift | checkWindow | startTimer | stopTimer
  | destroy
deriving DecidableEq

namespace Command

def all : List Command :=
  [useTheme, clearClipboard, appendClipboard, lift, checkWindow, startTimer, stopTimer, destroy]

def name : Command → Text
  | useTheme => "theme_use"
  | clearClipboard => "clipboard_clear"
  | appendClipboard => "clipboard_append"
  | lift => "lift"
  | checkWindow => "winfo_exists"
  | startTimer => "after"
  | stopTimer => "after_cancel"
  | destroy => "destroy"

def ofName? (t : Text) : Option Command := all.find? fun c => c.name = t

theorem ofName?_name (c : Command) : ofName? c.name = some c := by
  cases c <;> decide

end Command

inductive ScreenProblem
  | refused (command : Command)
  /-- There is no such widget, or not any more. -/
  | gone (path : Text)
  /-- The whole screen has been closed. -/
  | closed (command : Command)
deriving DecidableEq

def ScreenProblem.message : ScreenProblem → Text
  | refused c => c.name ++ " failed"
  | gone path => "invalid command name \"" ++ path ++ "\""
  | closed c => "can't invoke \"" ++ c.name ++ "\" command: application has been destroyed"

/-- A box of text.  It remembers whether its text was changed since someone last asked, and which
of its lines is marked. -/
structure TextBox where
  content : Text
  changed : Bool
  mark : Option Int
deriving DecidableEq

namespace TextBox

def blank : TextBox := ⟨[], false, none⟩

/-- Puts a text at the end; an empty one changes nothing. -/
def append (t : Text) (b : TextBox) : TextBox :=
  if t = [] then b else { b with content := b.content ++ t, changed := true }

def clear (b : TextBox) : TextBox := ⟨[], b.changed || b.content ≠ [], none⟩

def acknowledge (b : TextBox) : TextBox := { b with changed := false }

def setMark (line : Option Int) (b : TextBox) : TextBox := { b with mark := line }

theorem content_append (t : Text) (b : TextBox) : (b.append t).content = b.content ++ t := by
  by_cases h : t = [] <;> simp [append, h]

theorem content_clear (b : TextBox) : b.clear.content = [] := rfl

end TextBox

/-- Something to be done at some time.  The owner is the window without which it will not be
done. -/
structure Timer (ι : Type) where
  id : Nat
  due : Int
  owner : Option Nat
  job : ι

namespace Timer

variable {ι : Type}

/-- Timers go off in the order of their times; of two for one time the older one comes first. -/
def before (s t : Timer ι) : Bool := s.due < t.due || (s.due = t.due && s.id < t.id)

def earliest? : List (Timer ι) → Option (Timer ι)
  | [] => none
  | t :: ts =>
    match earliest? ts with
    | some s => some (if s.before t then s else t)
    | none => some t

theorem earliest?_mem {ts : List (Timer ι)} {t : Timer ι} (h : earliest? ts = some t) : t ∈ ts := by
  induction ts generalizing t with
  | nil => simp [earliest?] at h
  | cons s ts ih =>
    rw [earliest?] at h
    cases hs : earliest? ts with
    | none => simp_all
    | some r =>
      rw [hs] at h
      simp only [Option.some.injEq] at h
      by_cases hb : r.before s
      · simp only [hb, if_true] at h
        exact List.mem_cons_of_mem _ (ih (h ▸ hs))
      · simp only [hb] at h
        simp [← h]

end Timer

end JsonDesk
