import ValueShadow.Text.Segments
import ValueShadow.Toml.Value

/-!
# Scalars without quotes

`Value.ofScalar?` reads a text that is a truth value, a number, a date or a time as a whole.
Underscores may stand between the digits of a number, and a decimal number has no superfluous zero
in front.
-/

namespace ValueShadow.Toml

open Text

/-- The digits of a text in which single underscores stand between digits. -/
def digitsOf? (isDigit : Char → Bool) (text : List Char) : Option (List Char) :=
  let groups := splitAt '_' text
  if groups.all fun group => !group.isEmpty && group.all isDigit then some groups.flatten
  else none

/-- The digits of a decimal number without a superfluous zero in front. -/
def wholeDigits? (text : List Char) : Option (List Char) := do
  let digits ← digitsOf? Char.isDigit text
  match digits with
  | '0' :: _ :: _ => none
  | _ => some digits

/-- The sign in front of a number, and the rest. -/
def splitSign : List Char → Bool × List Char
  | '-' :: text => (true, text)
  | '+' :: text => (false, text)
  | text => (false, text)

/-- The value of a digit of any base up to sixteen. -/
def digitValue (c : Char) : Nat :=
  if c.isDigit then c.toNat - '0'.toNat
  else if 'a' ≤ c ∧ c ≤ 'f' then c.toNat - 'a'.toNat + 10
  else if 'A' ≤ c ∧ c ≤ 'F' then c.toNat - 'A'.toNat + 10
  else 16

/-- The number that the digits write in the base. -/
def valueInBase (base : Nat) (digits : List Char) : Nat :=
  digits.foldl (fun n c => base * n + digitValue c) 0

/-- The number after the sign that marks its base. -/
def based? (base : Nat) (text : List Char) : Option Nat :=
  (digitsOf? (digitValue · < base) text).map (valueInBase base)

/-- The integer without regard to its size. -/
def integer? : List Char → Option Int
  | '0' :: 'x' :: text => (based? 16 text).map Int.ofNat
  | '0' :: 'o' :: text => (based? 8 text).map Int.ofNat
  | '0' :: 'b' :: text => (based? 2 text).map Int.ofNat
  | text => do
    let (negative, text) := splitSign text
    let digits ← wholeDigits? text
    return if negative then -(decimalValue digits : Int) else decimalValue digits

/-- The integer, if it has at most 64 bits. -/
def integer64? (text : List Char) : Option Int := do
  let n ← integer? text
  if Int64.minValue.toInt ≤ n ∧ n ≤ Int64.maxValue.toInt then some n else none

/-- The part of a list before the first match, and the part after it if there is one. -/
def cut (isMatch : Char → Bool) (text : List Char) : List Char × Option (List Char) :=
  match text.dropWhile (!isMatch ·) with
  | [] => (text, none)
  | _ :: rest => (text.takeWhile (!isMatch ·), some rest)

/-- The exponent of a floating-point number. -/
def exponent? (text : List Char) : Option Int := do
  let (negative, text) := splitSign text
  let digits ← digitsOf? Char.isDigit text
  return if negative then -(decimalValue digits : Int) else decimalValue digits

/-- The finite number with a point, an exponent or both, unless it is too great. -/
def magnitude? (text : List Char) : Option Binary64 := do
  let (mantissa, exponent) := cut (fun c => c == 'e' || c == 'E') text
  let (whole, fraction) := cut (· == '.') mantissa
  if fraction.isNone && exponent.isNone then
    none
  let whole ← wholeDigits? whole
  let fraction ← match fraction with
    | some fraction => digitsOf? Char.isDigit fraction
    | none => some []
  let exponent ← match exponent with
    | some exponent => exponent? exponent
    | none => some 0
  Binary64.ofDecimal? (decimalValue (whole ++ fraction)) (exponent - fraction.length)

/-- The floating-point number. -/
def float? (text : List Char) : Option FloatValue :=
  let (negative, text) := splitSign text
  if text = ['i', 'n', 'f'] then some (.infinite negative)
  else if text = ['n', 'a', 'n'] then some .nan
  else (magnitude? text).map (.finite negative)

/-- The truth value. -/
def boolean? (text : List Char) : Option Bool :=
  if text = ['t', 'r', 'u', 'e'] then some true
  else if text = ['f', 'a', 'l', 's', 'e'] then some false
  else none

/-- The scalar that is the whole text. -/
def Value.ofScalar? (text : List Char) : Option Value :=
  (boolean? text).map .boolean <|> (integer64? text).map .integer <|> (float? text).map .float <|>
    (Datetime.ofChars? text).map .datetime

end ValueShadow.Toml
