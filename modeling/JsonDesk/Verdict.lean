import JsonDesk.Json.Decode
import JsonDesk.Diagnosis.Check

/-!
The validity of a document.  A text with nothing but white space is valid and has no value; any
other text is valid if the strict reader takes it, and is diagnosed if not.
-/

set_option autoImplicit false

namespace JsonDesk

inductive Verdict
  /-- A valid text and its value; the value is null for a blank text. -/
  | valid (value : Json)
  /-- A refused text, with the reader's message and the diagnosis. -/
  | invalid (message : Text) (diagnosis : Diagnosis)

def validate [StackRoom] (text : Text) : Verdict :=
  if text.isBlank then .valid .null
  else match Json.decode .strict text with
    | .ok v => .valid v
    | .error fault =>
      let message := fault.message text
      let diagnosis := match diagnose text message with
        | .ok d => d
        | .error _ => ⟨.unknown, .lookAround⟩
      .invalid message.withoutOpenings diagnosis

namespace Verdict

def isValid : Verdict → Bool
  | valid _ => true
  | invalid .. => false

/-- The value that operations on documents work with; there is none for invalid texts, and null
counts as none. -/
def value? : Verdict → Option Json
  | valid .null => none
  | valid v => some v
  | invalid .. => none

end Verdict

end JsonDesk
