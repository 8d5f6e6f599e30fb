import JsonDesk.Diagnosis.Lines
import JsonDesk.Diagnosis.Brackets
import JsonDesk.Diagnosis.Message

set_option autoImplicit false

namespace JsonDesk

inductive Check
  | unterminatedString
  | missingComma
  | missingColon
  | delimiterBalance
  | trailingComma
  | duplicateKey
deriving DecidableEq

namespace Check

def all : List Check :=
  [unterminatedString, missingComma, missingColon, delimiterBalance, trailingComma, duplicateKey]

def name : Check → Text
  | unterminatedString => "unterminated_string"
  | missingComma => "missing_comma"
  | missingColon => "missing_colon"
  | delimiterBalance => "delimiter_balance"
  | trailingComma => "trailing_comma"
  | duplicateKey => "duplicate_key"

/-- Unterminated strings are looked for only if the message is about them. -/
def run (check : Check) (text : Text) (lines : List Text) (message : Text) : Option Diagnosis :=
  match check with
  | unterminatedString =>
    if message.tellsUnterminated then Diagnosis.unterminatedString lines else none
  | missingComma => Diagnosis.missingComma lines
  | missingColon => Diagnosis.missingColon lines
  | delimiterBalance => Diagnosis.brackets text
  | trailingComma => Diagnosis.trailingComma lines
  | duplicateKey => Diagnosis.duplicateKey lines

end Check

def diagnose (text message : Text) : Except Failure Diagnosis :=
  match Check.all.findSome? fun check => check.run text text.lines message with
  | some d => .ok d
  | none => Diagnosis.ofMessage text message

end JsonDesk
