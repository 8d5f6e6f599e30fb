import JsonDesk.Json.Write
import JsonDesk.Json.Fault
import JsonDesk.Screen

/-!
What can go wrong, by cause.  Values that come from messages and files are loosely typed: a field
may hold anything, and using it as something else is a failure of its own kind, whose message names
the type it found.
-/

set_option autoImplicit false

namespace JsonDesk

def Json.typeName : Json → Text
  | .null => "NoneType"
  | .bool _ => "bool"
  | .int _ => "int"
  | .float _ => "float"
  | .str _ => "str"
  | .arr _ => "list"
  | .obj _ => "dict"

/-- Failures of reading and saving documents, told to the user as they are. -/
inductive DocumentFailure
  | noFile
  | noDestination
  | unreadable (name : Text)
  | unwritable (name : Text)
  | notUtf8 (name : Text)
  | unencodable (name encoding : Text)
deriving DecidableEq

def DocumentFailure.message : DocumentFailure → Text
  | .noFile => "No file selected."
  | .noDestination => "Save destination path is required."
  | .unreadable name => "Could not read " ++ name ++ "."
  | .unwritable name => "Could not write " ++ name ++ "."
  | .notUtf8 name => name ++ " is not UTF-8 text."
  | .unencodable name encoding =>
    name ++ " contains characters that cannot be saved as " ++ encoding ++ "."

inductive SystemProblem
  | missing | occupied | notDirectory | isDirectory | nameTooLong
deriving DecidableEq

namespace SystemProblem

def number : SystemProblem → Nat
  | missing => 2
  | occupied => 17
  | notDirectory => 20
  | isDirectory => 21
  | nameTooLong => 36

def phrase : SystemProblem → Text
  | missing => "No such file or directory"
  | occupied => "File exists"
  | notDirectory => "Not a directory"
  | isDirectory => "Is a directory"
  | nameTooLong => "File name too long"

end SystemProblem

inductive CalendarProblem
  | year (n : Int)
  | month | day | hour | minute | second
deriving DecidableEq

def CalendarProblem.message : CalendarProblem → Text
  | year n => "year " ++ Text.ofInt n ++ " is out of range"
  | month => "month must be in 1..12"
  | day => "day is out of range for month"
  | hour => "hour must be in 0..23"
  | minute => "minute must be in 0..59"
  | second => "second must be in 0..59"

inductive Failure
  | undecodable (text : Text) (fault : Fault)
  /-- A number that a document cannot hold, told only where the writer names it. -/
  | outOfRange (which : Option Double)
  | notInteger (literal : Text)
  | tooManyDigits (digits : Nat)
  | integerType (typeName : Text)
  | infiniteInteger
  | undefinedInteger
  | notDouble (literal : Text)
  | doubleType (typeName : Text)
  | doubleOverflow
  | noMember (typeName member : Text)
  | notIterable (typeName : Text)
  | notSubscriptable (typeName : Text)
  | stringIndex (typeName : Text)
  | listIndex (typeName : Text)
  | unhashable (typeName : Text)
  | notComparable (relation left right : Text)
  | badOperands (operation left right : Text)
  | notAnIndex (typeName : Text)
  | wrongType (detail : Text)
  | missingKey (key : Json)
  | badPosition (index : Int)
  | unexpectedField (record field : Text)
  | unknownEncoding (name : Text)
  | notTextEncoding (name : Text)
  | nullInName
  | embeddedNull
  /-- A number of blanks that is no index of a machine. -/
  | notIndexSized
  | unknownLevel (name : Text)
  | outOfCalendar (problem : CalendarProblem)
  /-- A refusal of the file system, with the path if it is known. -/
  | system (problem : SystemProblem) (path : Option Text)
  /-- A path with surrogates from one offset up to another. -/
  | unencodablePath (found : CodePoint) (first stop : Nat)
  | workerStopped
  | cannotCancel (detail : Text)
  | document (failure : DocumentFailure) (path : Text)
  | screen (problem : ScreenProblem)

namespace Failure

def notIndexSizedMessage : Text := "cannot fit 'int' into an index-sized integer"

def message : Failure → Text
  | undecodable text fault => fault.message text
  | outOfRange none => "Out of range float values are not JSON compliant"
  | outOfRange (some d) => "Out of range float values are not JSON compliant: " ++ d.written
  | notInteger literal =>
    "invalid literal for int() with base 10: " ++ literal.quoted.take 200
  | tooManyDigits digits => tooLongMessage digits
  | integerType t =>
    "int() argument must be a string, a bytes-like object or a real number, not '" ++ t ++ "'"
  | infiniteInteger => "cannot convert float infinity to integer"
  | undefinedInteger => "cannot convert float NaN to integer"
  | notDouble literal => "could not convert string to float: " ++ literal.quoted
  | doubleType t => "float() argument must be a string or a real number, not '" ++ t ++ "'"
  | doubleOverflow => "int too large to convert to float"
  | noMember t member => "'" ++ t ++ "' object has no attribute '" ++ member ++ "'"
  | notIterable t => "'" ++ t ++ "' object is not iterable"
  | notSubscriptable t => "'" ++ t ++ "' object is not subscriptable"
  | stringIndex t => "string indices must be integers, not '" ++ t ++ "'"
  | listIndex t => "list indices must be integers or slices, not " ++ t
  | unhashable t => "unhashable type: '" ++ t ++ "'"
  | notComparable relation left right =>
    "'" ++ relation ++ "' not supported between instances of '" ++ left ++ "' and '" ++ right ++ "'"
  | badOperands operation left right =>
    "unsupported operand type(s) for " ++ operation ++ ": '" ++ left ++ "' and '" ++ right ++ "'"
  | notAnIndex t => "'" ++ t ++ "' object cannot be interpreted as an integer"
  | wrongType detail => detail
  | missingKey key => Json.write Json.displayStyle key
  | badPosition index =>
    if -0x8000000000000000 ≤ index ∧ index < 0x8000000000000000 then "list index out of range"
    else notIndexSizedMessage
  | unexpectedField record field =>
    record ++ ".__init__() got an unexpected keyword argument '" ++ field ++ "'"
  | unknownEncoding name => "unknown encoding: " ++ name
  | notTextEncoding name =>
    "'" ++ name ++ "' is not a text encoding; use codecs.open() to handle arbitrary codecs"
  | nullInName => "embedded null character"
  | embeddedNull => "embedded null byte"
  | notIndexSized => notIndexSizedMessage
  | unknownLevel name => "Unknown level: " ++ name.quoted
  | outOfCalendar problem => problem.message
  | system problem path =>
    "[Errno " ++ Text.ofNat problem.number ++ "] " ++ problem.phrase
      ++ match path with
        | some p => ": " ++ p.quoted
        | none => []
  | unencodablePath found first stop =>
    if stop = first + 1 then
      "'utf-8' codec can't encode character '\\u" ++ Text.hex 4 found.val ++ "' in position "
        ++ Text.ofNat first ++ ": surrogates not allowed"
    else
      "'utf-8' codec can't encode characters in position " ++ Text.ofNat first ++ "-"
        ++ Text.ofNat (stop - 1) ++ ": surrogates not allowed"
  | workerStopped => "JSON worker is not running."
  | cannotCancel detail => detail
  | document failure _ => failure.message
  | screen problem => problem.message

end Failure

/-- The families of failures, which decide where a failure is put up with. -/
inductive FailureKind
  | value | type | member | key | position | overflow | memory | lookup | depth | system
  | transport | document | screen
deriving DecidableEq

/-- Best-effort work, such as writing settings or logs, tolerates these families. -/
def FailureKind.tolerable : FailureKind → Bool
  | .overflow | .memory | .lookup | .screen => false
  | _ => true

namespace Failure

def kind : Failure → FailureKind
  | undecodable _ (.tooDeep _) => .depth
  | undecodable .. | outOfRange _ | notInteger _ | tooManyDigits _ | undefinedInteger
  | notDouble _ | embeddedNull | nullInName | unencodablePath .. | unknownLevel _
  | outOfCalendar _ | cannotCancel _ => .value
  | integerType _ | doubleType _ | notIterable _ | notSubscriptable _ | stringIndex _
  | listIndex _ | unhashable _ | notComparable .. | badOperands .. | notAnIndex _ | wrongType _
  | unexpectedField .. => .type
  | infiniteInteger | doubleOverflow | notIndexSized => .overflow
  | noMember .. => .member
  | missingKey _ => .key
  | badPosition _ => .position
  | unknownEncoding _ | notTextEncoding _ => .lookup
  | system .. => .system
  | workerStopped => .transport
  | document .. => .document
  | screen _ => .screen

end Failure

end JsonDesk
