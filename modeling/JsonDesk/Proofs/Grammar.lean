import JsonDesk.Json.Decode

/-!
The grammar of documents, written down apart from every reader: which texts are documents, and the
value that each of them spells.  A derivation knows how deep its containers nest.  The reading
decides only two things, namely whether the three constants are values and what becomes of an
integer that is too long to be converted.
-/

set_option autoImplicit false

namespace JsonDesk

namespace Members

def firstNames : List Text → List Text
  | [] => []
  | n :: ns => n :: (firstNames ns).filter fun m => m ≠ n

/-- Of members with one name the last value stands at the first place. -/
def settled (ms : Members) : Members :=
  (firstNames ms.names).map fun n => (n, (get? ms.reverse n).getD .null)

end Members

/-- The value of a number, if the reading has one for it. -/
def Numeral.denoted? (how : Reading) (m : Numeral) : Option Json :=
  if m.isInteger then
    if m.whole.length ≤ maxDigits then some (.int m.toInt)
    else if how.longAsDouble then some (.float (.infinite m.negative))
    else none
  else some (.float m.toDouble)

def Constant.value : Constant → Json
  | .nan => .float .nan
  | .infinity => .float (.infinite false)
  | .minusInfinity => .float (.infinite true)

namespace Grammar

/-- What may stand between tokens. -/
def Gap (t : Text) : Prop :=
  ∀ c ∈ t, c = CodePoint.ofChar ' ' ∨ c = CodePoint.ofChar '\t' ∨ c = CodePoint.ofChar '\n' ∨
    c = CodePoint.ofChar '\r'

def Digits (t : Text) : Prop := t ≠ [] ∧ ∀ c ∈ t, c.isDigit

inductive Sign : Text → Bool → Prop
  | plus : Sign [] false
  | minus : Sign "-" true

inductive Whole : Text → Prop
  | zero : Whole "0"
  | digits {c : CodePoint} {t : Text} : c ≠ CodePoint.ofChar '0' → Digits (c :: t) → Whole (c :: t)

inductive Fraction : Text → Text → Prop
  | none : Fraction [] []
  | some {t : Text} : Digits t → Fraction ("." ++ t) t

inductive Exponent : Text → Option (Bool × Text) → Prop
  | none : Exponent [] none
  | unsigned {e : CodePoint} {t : Text} :
    e = CodePoint.ofChar 'e' ∨ e = CodePoint.ofChar 'E' → Digits t →
      Exponent (e :: t) (some (false, t))
  | plus {e : CodePoint} {t : Text} :
    e = CodePoint.ofChar 'e' ∨ e = CodePoint.ofChar 'E' → Digits t →
      Exponent (e :: ("+" ++ t)) (some (false, t))
  | minus {e : CodePoint} {t : Text} :
    e = CodePoint.ofChar 'e' ∨ e = CodePoint.ofChar 'E' → Digits t →
      Exponent (e :: ("-" ++ t)) (some (true, t))

inductive Number : Text → Numeral → Prop
  | mk {s w f x fraction : Text} {negative : Bool} {exponent : Option (Bool × Text)} :
    Sign s negative → Whole w → Fraction f fraction → Exponent x exponent →
      Number (s ++ w ++ f ++ x) ⟨negative, w, fraction, exponent⟩

inductive Short : CodePoint → CodePoint → Prop
  | quote : Short '"' '"'
  | backslash : Short '\\' '\\'
  | slash : Short '/' '/'
  | backspace : Short 'b' '\x08'
  | formFeed : Short 'f' '\x0c'
  | lineFeed : Short 'n' '\n'
  | carriageReturn : Short 'r' '\r'
  | tab : Short 't' '\t'

inductive Hex4 : Text → Nat → Prop
  | mk {a b c d : CodePoint} {i j k l : Nat} :
    a.hexDigit? = some i → b.hexDigit? = some j → c.hexDigit? = some k → d.hexDigit? = some l →
      Hex4 [a, b, c, d] (((i * 16 + j) * 16 + k) * 16 + l)

def HighUnit (n : Nat) : Prop := 0xD800 ≤ n ∧ n ≤ 0xDBFF

def LowUnit (n : Nat) : Prop := 0xDC00 ≤ n ∧ n ≤ 0xDFFF

inductive LowAhead : Text → Prop
  | mk {x w : Text} {n : Nat} : Hex4 x n → LowUnit n → LowAhead ("\\u" ++ x ++ w)

/-- What stands between quotes, and the text that it spells.  A high and a low surrogate spelled by
neighbouring escapes are one code point; any other surrogate stands for itself. -/
inductive Body : Text → Text → Prop
  | nil : Body [] []
  | plain {c : CodePoint} {w t : Text} :
    0x20 ≤ c.val → c ≠ CodePoint.ofChar '"' → c ≠ CodePoint.ofChar '\\' → Body w t →
      Body (c :: w) (c :: t)
  | short {c d : CodePoint} {w t : Text} :
    Short c d → Body w t → Body ("\\" ++ c :: w) (d :: t)
  | unit {x w t : Text} {n : Nat} :
    Hex4 x n → ¬ (HighUnit n ∧ LowAhead w) → Body w t →
      Body ("\\u" ++ x ++ w) (CodePoint.ofNat n :: t)
  | pair {x y w t : Text} {high low : Nat} :
    Hex4 x high → HighUnit high → Hex4 y low → LowUnit low → Body w t →
      Body ("\\u" ++ x ++ "\\u" ++ y ++ w) (Json.joinUnits high low :: t)

/-- A value as it stands among others: its text, and the gaps around it. -/
structure Element where
  before : Text
  text : Text
  after : Text
  value : Json

namespace Element

def spelled (e : Element) : Text := e.before ++ e.text ++ e.after

def Spaced (e : Element) : Prop := Gap e.before ∧ Gap e.after

end Element

/-- A member: its name between gaps, and its value behind the colon. -/
structure Field where
  before : Text
  body : Text
  after : Text
  name : Text
  element : Element

namespace Field

def spelled (f : Field) : Text :=
  f.before ++ "\"" ++ f.body ++ "\"" ++ f.after ++ ":" ++ f.element.spelled

def Spaced (f : Field) : Prop := Gap f.before ∧ Gap f.after ∧ f.element.Spaced

def member (f : Field) : Text × Json := (f.name, f.element.value)

end Field

def commas (ts : List Text) : Text := Text.join "," ts

theorem commas_cons (t : Text) {ts : List Text} (h : ts ≠ []) :
    commas (t :: ts) = t ++ "," ++ commas ts := by
  cases ts with
  | nil => exact absurd rfl h
  | cons u ts => simp [commas, Text.join]

@[simp] theorem commas_singleton (t : Text) : commas [t] = t := by simp [commas, Text.join]

/-- `Value how n t v`: the text spells the value, with containers nested at most `n` deep. -/
inductive Value (how : Reading) : Nat → Text → Json → Prop
  | null {n : Nat} : Value how n "null" .null
  | yes {n : Nat} : Value how n "true" (.bool true)
  | no {n : Nat} : Value how n "false" (.bool false)
  | constant {n : Nat} {c : Constant} : how.constants = true → Value how n c.word c.value
  | number {n : Nat} {t : Text} {m : Numeral} {v : Json} :
    Number t m → m.denoted? how = some v → Value how n t v
  | string {n : Nat} {w t : Text} : Body w t → Value how n ("\"" ++ w ++ "\"") (.str t)
  | emptyArray {n : Nat} {g : Text} : Gap g → Value how (n + 1) ("[" ++ g ++ "]") (.arr [])
  | array {n : Nat} {es : List Element} :
    es ≠ [] → (∀ e ∈ es, e.Spaced) → (∀ e ∈ es, Value how n e.text e.value) →
      Value how (n + 1) ("[" ++ commas (es.map Element.spelled) ++ "]")
        (.arr (es.map Element.value))
  | emptyObject {n : Nat} {g : Text} :
    Gap g → Value how (n + 1) ("\x7b" ++ g ++ "\x7d") (.obj [])
  | object {n : Nat} {fs : List Field} :
    fs ≠ [] → (∀ f ∈ fs, f.Spaced) → (∀ f ∈ fs, Body f.body f.name) →
      (∀ f ∈ fs, Value how n f.element.text f.element.value) →
      Value how (n + 1) ("\x7b" ++ commas (fs.map Field.spelled) ++ "\x7d")
        (.obj (Members.settled (fs.map Field.member)))

/-- A document is one value between gaps. -/
inductive Document (how : Reading) (n : Nat) : Text → Json → Prop
  | mk {e : Element} : e.Spaced → Value how n e.text e.value → Document how n e.spelled e.value

end Grammar

end JsonDesk
