import ValueShadow.Text.Hidden

/-!
# Texts in messages

A message quotes a path so that it stays on one line and shows every character: quotes and
backslashes get a backslash, hidden characters are written by their code point. A line of a log
shows only the characters that would control a terminal by their code.
-/

namespace ValueShadow.Text

/-- The hexadecimal digits of a number, in small letters. -/
def hex (n : Nat) : List Char :=
  Nat.toDigits 16 n

/-- A character by its code point. -/
def byCodePoint (c : Char) : List Char :=
  ['\\', 'u', '\x7b'] ++ hex c.toNat ++ ['\x7d']

/-- A character of a quoted text. -/
def quotedChar (c : Char) : List Char :=
  if c = '\x00' then ['\\', '0']
  else if c = '\t' then ['\\', 't']
  else if c = '\r' then ['\\', 'r']
  else if c = '\n' then ['\\', 'n']
  else if c = '"' ∨ c = '\'' ∨ c = '\\' then ['\\', c]
  else if isHidden c then byCodePoint c
  else [c]

/-- The text between double quotes. -/
def quoted (text : String) : String :=
  "\"" ++ String.ofList (text.toList.flatMap quotedChar) ++ "\""

/-- Two hexadecimal digits. -/
def hexByte (n : Nat) : List Char :=
  [Nat.digitChar (n / 16), Nat.digitChar (n % 16)]

/-- A character of a line of a log. -/
def loggedChar (c : Char) : List Char :=
  if c = '\x1b' ∨ c = '\x07' ∨ c = '\x08' ∨ c = '\x0c' ∨ c = '\x7f' then
    ['\\', 'x'] ++ hexByte c.toNat
  else if 0x80 ≤ c.toNat ∧ c.toNat ≤ 0x9f then
    byCodePoint c
  else
    [c]

/-- The text as a log shows it. -/
def logged (text : String) : String :=
  String.ofList (text.toList.flatMap loggedChar)

end ValueShadow.Text
