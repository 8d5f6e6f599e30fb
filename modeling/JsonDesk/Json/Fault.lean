import JsonDesk.Text.Lines

set_option autoImplicit false

namespace JsonDesk

inductive Misreading
  | byteOrderMark
  | value
  | propertyName
  | colon
  | comma
  | extraData
  | controlCharacter
  | unterminated
  | escape
  | unicodeEscape
deriving DecidableEq

def Misreading.phrase : Misreading → Text
  | .byteOrderMark => "Unexpected UTF-8 BOM (decode using utf-8-sig)"
  | .value => "Expecting value"
  | .propertyName => "Expecting property name enclosed in double quotes"
  | .colon => "Expecting ':' delimiter"
  | .comma => "Expecting ',' delimiter"
  | .extraData => "Extra data"
  | .controlCharacter => "Invalid control character at"
  | .unterminated => "Unterminated string starting at"
  | .escape => "Invalid \\escape"
  | .unicodeEscape => "Invalid \\uXXXX escape"

inductive Constant
  | nan | infinity | minusInfinity
deriving DecidableEq

def Constant.word : Constant → Text
  | .nan => "NaN"
  | .infinity => "Infinity"
  | .minusInfinity => "-Infinity"

inductive Container
  | array | object
deriving DecidableEq

def Container.name : Container → Text
  | .array => "array"
  | .object => "object"

inductive Fault
  /-- Something unexpected with so many code points left. -/
  | misread (what : Misreading) (left : Nat)
  /-- A constant where only numbers of the format are allowed. -/
  | constant (which : Constant)
  | tooDeep (container : Container)
  /-- An integer with more digits than can be converted. -/
  | tooLong (digits : Nat)
deriving DecidableEq

/-- The most digits that an integer is converted from. -/
def maxDigits : Nat := 4300

def tooLongMessage (digits : Nat) : Text :=
  "Exceeds the limit (" ++ Text.ofNat maxDigits
    ++ " digits) for integer string conversion: value has "
    ++ Text.ofNat digits ++ " digits; use sys.set_int_max_str_digits() to increase the limit"

namespace Fault

def message (text : Text) : Fault → Text
  | misread what left =>
    let offset := text.length - left
    let p := text.positionAt offset
    what.phrase ++ ": line " ++ Text.ofNat p.line ++ " column " ++ Text.ofNat p.column
      ++ " (char " ++ Text.ofNat offset ++ ")"
  | constant which => "Invalid literal " ++ which.word
  | tooDeep container =>
    "maximum recursion depth exceeded while decoding a JSON " ++ container.name
      ++ " from a unicode string"
  | tooLong digits => tooLongMessage digits

end Fault

end JsonDesk
