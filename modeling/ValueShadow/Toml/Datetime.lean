/-!
# Dates and times

The four kinds of dates and times of a TOML document, with the text they are written as: a capital
`T` between date and time, seconds always, a fraction without zeros at its end, and `Z` for the zero
offset only where it was read.
-/

namespace ValueShadow.Toml

/-- A day of the calendar. -/
structure Date where
  year : Nat
  month : Nat
  day : Nat
  deriving DecidableEq, Repr

/-- A time of day. -/
structure Time where
  hour : Nat
  minute : Nat
  second : Nat
  nanosecond : Nat
  deriving DecidableEq, Repr

/-- A distance from universal time. -/
inductive Offset where
  | universal
  | minutes (shift : Int)
  deriving DecidableEq, Repr

/-- A date, a time, or both, with or without an offset. -/
inductive Datetime where
  | date (day : Date)
  | time (clock : Time)
  | localDatetime (day : Date) (clock : Time)
  | offsetDatetime (day : Date) (clock : Time) (offset : Offset)
  deriving DecidableEq, Repr

/-- The number in decimal with zeros in front up to a width. -/
def padded (width n : Nat) : String :=
  let digits := Nat.toDigits 10 n
  String.ofList (List.replicate (width - digits.length) '0' ++ digits)

namespace Date

/-- Whether the year has a leap day. -/
def isLeap (year : Nat) : Bool :=
  year % 4 == 0 && (year % 100 != 0 || year % 400 == 0)

/-- The days of a month. -/
def daysIn (year month : Nat) : Nat :=
  if month = 2 then (if isLeap year then 29 else 28)
  else if month = 4 ∨ month = 6 ∨ month = 9 ∨ month = 11 then 30
  else 31

/-- Whether the calendar has the day. -/
def isValid (date : Date) : Bool :=
  1 ≤ date.month && date.month ≤ 12 && 1 ≤ date.day && date.day ≤ daysIn date.year date.month

/-- The text of the date. -/
def text (date : Date) : String :=
  padded 4 date.year ++ "-" ++ padded 2 date.month ++ "-" ++ padded 2 date.day

end Date

namespace Time

/-- Whether the clock shows the time; a leap second counts. -/
def isValid (time : Time) : Bool :=
  time.hour ≤ 23 && time.minute ≤ 59 && time.second ≤ 60

/-- The digits of the fraction, with a point in front, without the zeros at the end. -/
def fractionText (nanosecond : Nat) : String :=
  if nanosecond = 0 then
    ""
  else
    let digits := (padded 9 nanosecond).toList.reverse.dropWhile (· == '0')
    "." ++ String.ofList digits.reverse

/-- The text of the time. -/
def text (time : Time) : String :=
  padded 2 time.hour ++ ":" ++ padded 2 time.minute ++ ":" ++ padded 2 time.second ++
    fractionText time.nanosecond

end Time

namespace Offset

/-- The text of the offset. -/
def text : Offset → String
  | .universal => "Z"
  | .minutes shift =>
    let distance := shift.natAbs
    (if shift < 0 then "-" else "+") ++ padded 2 (distance / 60) ++ ":" ++ padded 2 (distance % 60)

end Offset

namespace Datetime

/-- The text of the date or time. -/
def text : Datetime → String
  | .date day => day.text
  | .time clock => clock.text
  | .localDatetime day clock => day.text ++ "T" ++ clock.text
  | .offsetDatetime day clock offset => day.text ++ "T" ++ clock.text ++ offset.text

end Datetime

/-! ### Reading -/

/-- What reads a value from the start of a text and gives the rest. -/
abbrev Reader (α : Type) := List Char → Option (α × List Char)

/-- The number written with the digits. -/
def decimalValue (digits : List Char) : Nat :=
  digits.foldl (fun n c => 10 * n + (c.toNat - '0'.toNat)) 0

/-- Reads a number of exactly `count` digits. -/
def readDigits (count : Nat) : Reader Nat := fun text =>
  let digits := text.take count
  if digits.length = count ∧ digits.all Char.isDigit then
    some (decimalValue digits, text.drop count)
  else
    none

/-- Reads the character. -/
def readChar (c : Char) : Reader Unit
  | [] => none
  | first :: rest => if first = c then some ((), rest) else none

/-- Reads a date. -/
def Date.read : Reader Date := fun text => do
  let (year, text) ← readDigits 4 text
  let ((), text) ← readChar '-' text
  let (month, text) ← readDigits 2 text
  let ((), text) ← readChar '-' text
  let (day, text) ← readDigits 2 text
  let date : Date := ⟨year, month, day⟩
  if date.isValid then some (date, text) else none

/-- The nanoseconds of a fraction, of which the tenth digit and the later ones do not count. -/
def nanoseconds (fraction : List Char) : Nat :=
  let digits := fraction.take 9
  decimalValue digits * Nat.pow 10 (9 - digits.length)

/-- Reads the fraction of a second, if there is one. -/
def readFraction : Reader Nat
  | '.' :: text =>
    let digits := text.takeWhile Char.isDigit
    if digits.isEmpty then none else some (nanoseconds digits, text.dropWhile Char.isDigit)
  | text => some (0, text)

/-- Reads the seconds with their fraction, if there are any. -/
def readSeconds : Reader (Nat × Nat)
  | ':' :: text => do
    let (second, text) ← readDigits 2 text
    let (nanosecond, text) ← readFraction text
    return ((second, nanosecond), text)
  | text => some ((0, 0), text)

/-- Reads a time of day. -/
def Time.read : Reader Time := fun text => do
  let (hour, text) ← readDigits 2 text
  let ((), text) ← readChar ':' text
  let (minute, text) ← readDigits 2 text
  let ((second, nanosecond), text) ← readSeconds text
  let time : Time := ⟨hour, minute, second, nanosecond⟩
  if time.isValid then some (time, text) else none

/-- Reads the hours and minutes of an offset. -/
def readOffsetMinutes : Reader Nat := fun text => do
  let (hour, text) ← readDigits 2 text
  let ((), text) ← readChar ':' text
  let (minute, text) ← readDigits 2 text
  if hour ≤ 23 ∧ minute ≤ 59 then some (60 * hour + minute, text) else none

/-- The offset that is the whole text. -/
def Offset.ofChars? : List Char → Option Offset
  | ['Z'] | ['z'] => some .universal
  | '+' :: text =>
    match readOffsetMinutes text with
    | some (shift, []) => some (.minutes shift)
    | _ => none
  | '-' :: text =>
    match readOffsetMinutes text with
    | some (shift, []) => some (.minutes (-shift))
    | _ => none
  | _ => none

/-- The date and time that starts with the day and goes on with the text. -/
def Datetime.ofDate? (day : Date) : List Char → Option Datetime
  | [] => some (.date day)
  | separator :: text =>
    if separator = 'T' ∨ separator = 't' ∨ separator = ' ' then do
      let (clock, rest) ← Time.read text
      if rest.isEmpty then
        return .localDatetime day clock
      let offset ← Offset.ofChars? rest
      return .offsetDatetime day clock offset
    else
      none

/-- The date or time that is the whole text. -/
def Datetime.ofChars? (text : List Char) : Option Datetime :=
  match Date.read text with
  | some (day, rest) => Datetime.ofDate? day rest
  | none =>
    match Time.read text with
    | some (clock, []) => some (.time clock)
    | _ => none

end ValueShadow.Toml
