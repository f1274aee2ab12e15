import ValueShadow.Toml.Value

/-!
# Quoted texts

The four kinds of quotes of a TOML document. A text between single quotes stands as it is; between
double quotes a backslash starts an escape. Between three quotes the text goes over lines, a line
break right after the opening is dropped, and a backslash at the end of a line drops the line break
and all blanks after it. Reading finds the closing quotes first and undoes the escapes then.
-/

namespace ValueShadow.Toml

/-- Whether the character may stand in a quoted text or a comment: a tab or no control character. -/
def isTextChar (c : Char) : Bool :=
  c == '\t' || (' ' ≤ c && c != '\x7f')

/-- Whether the character is a blank inside a line. -/
def isBlank (c : Char) : Bool :=
  c == ' ' || c == '\t'

/-- The text up to the closing quote, and the rest. -/
def untilQuote (quote : Char) : Reader (List Char)
  | [] => none
  | c :: rest =>
    if c = quote then
      some ([], rest)
    else do
      let (body, rest) ← untilQuote quote rest
      return (c :: body, rest)

/-- The text up to the closing double quote, and the rest. A quote after a backslash does not close;
`escaped` tells whether a backslash came before. -/
def untilUnescaped (escaped : Bool) : Reader (List Char)
  | [] => none
  | c :: rest =>
    if c = '"' ∧ !escaped then
      some ([], rest)
    else do
      let (body, rest) ← untilUnescaped (c == '\\' && !escaped) rest
      return (c :: body, rest)

/-- At most two more quotes after three belong to the text and come before the closing ones. -/
def closingQuotes (quote : Char) (rest : List Char) : List Char × List Char :=
  let extra := (rest.takeWhile (· == quote)).take 2
  (extra, rest.drop extra.length)

/-- The text up to three closing quotes, and the rest. Between double quotes a character after a
backslash does not close; `escaped` tells whether a backslash came before. -/
def untilThree (quote : Char) (escaped : Bool) : Reader (List Char)
  | [] => none
  | c :: rest =>
    match escaped, rest with
    | false, second :: third :: others =>
      if c = quote ∧ second = quote ∧ third = quote then
        some (closingQuotes quote others)
      else do
        let (body, rest) ← untilThree quote (quote == '"' && c == '\\') rest
        return (c :: body, rest)
    | _, _ => do
      let (body, rest) ← untilThree quote (quote == '"' && c == '\\' && !escaped) rest
      return (c :: body, rest)

/-- Where reading the body of a text between double quotes stands. -/
inductive EscapeState where
  /-- Outside an escape. -/
  | plain
  /-- After a carriage return, which a line feed has to follow. -/
  | carriageReturn
  /-- After a backslash. -/
  | backslash
  /-- Before the last `left` digits of a code point. -/
  | codePoint (left value : Nat)
  /-- After a backslash and blanks; `broken` tells whether a line break was among them. -/
  | lineEnd (broken : Bool)
  /-- After a backslash, blanks and a carriage return. -/
  | lineEndReturn
  deriving DecidableEq

/-- Whether the number is the code point of a character. -/
def isCodePoint (n : Nat) : Bool :=
  n < 0xD800 || (0xE000 ≤ n && n < 0x110000)

/-- The state after a character outside an escape, and what it adds to the text. -/
def plainStep (multiline : Bool) (c : Char) : Option (EscapeState × List Char) :=
  if c = '\\' then some (.backslash, [])
  else if isTextChar c then some (.plain, [c])
  else if multiline ∧ c = '\n' then some (.plain, [c])
  else if multiline ∧ c = '\r' then some (.carriageReturn, [c])
  else none

/-- The state after the character behind a backslash, and what it adds to the text. -/
def escapeStep (multiline : Bool) (c : Char) : Option (EscapeState × List Char) :=
  match c with
  | 'b' => some (.plain, ['\x08'])
  | 't' => some (.plain, ['\t'])
  | 'n' => some (.plain, ['\n'])
  | 'f' => some (.plain, ['\x0c'])
  | 'r' => some (.plain, ['\r'])
  | 'e' => some (.plain, ['\x1b'])
  | '"' => some (.plain, ['"'])
  | '\\' => some (.plain, ['\\'])
  | 'x' => some (.codePoint 2 0, [])
  | 'u' => some (.codePoint 4 0, [])
  | 'U' => some (.codePoint 8 0, [])
  | c =>
    if multiline then
      if isBlank c then some (.lineEnd false, [])
      else if c = '\n' then some (.lineEnd true, [])
      else if c = '\r' then some (.lineEndReturn, [])
      else none
    else
      none

/-- The value of a hexadecimal digit. -/
def hexDigit? (c : Char) : Option Nat :=
  if c.isDigit then some (c.toNat - '0'.toNat)
  else if 'a' ≤ c ∧ c ≤ 'f' then some (c.toNat - 'a'.toNat + 10)
  else if 'A' ≤ c ∧ c ≤ 'F' then some (c.toNat - 'A'.toNat + 10)
  else none

/-- The state after one character of the body, and what it adds to the text. -/
def EscapeState.step (multiline : Bool) (c : Char) :
    EscapeState → Option (EscapeState × List Char)
  | .plain => plainStep multiline c
  | .carriageReturn => if c = '\n' then some (.plain, ['\n']) else none
  | .backslash => escapeStep multiline c
  | .codePoint left value => do
    let value := 16 * value + (← hexDigit? c)
    if 1 < left then
      return (.codePoint (left - 1) value, [])
    if isCodePoint value then some (.plain, [Char.ofNat value]) else none
  | .lineEnd broken =>
    if isBlank c then some (.lineEnd broken, [])
    else if c = '\n' then some (.lineEnd true, [])
    else if c = '\r' then some (.lineEndReturn, [])
    else if broken then plainStep multiline c
    else none
  | .lineEndReturn => if c = '\n' then some (.lineEnd true, []) else none

/-- Whether the body may end in the state. -/
def EscapeState.isFinal : EscapeState → Bool
  | .plain | .lineEnd true => true
  | _ => false

/-- The text of a body between double quotes, from a state on. -/
def unescapeFrom (multiline : Bool) (state : EscapeState) : List Char → Option (List Char)
  | [] => if state.isFinal then some [] else none
  | c :: rest => do
    let (state, added) ← state.step multiline c
    let text ← unescapeFrom multiline state rest
    return added ++ text

/-- The text of a body between double quotes. -/
def unescape (multiline : Bool) (body : List Char) : Option String :=
  (unescapeFrom multiline .plain body).map String.ofList

/-- Whether every carriage return comes before a line feed and no other control character occurs. -/
def isLines : List Char → Bool
  | [] => true
  | '\r' :: '\n' :: rest => isLines rest
  | c :: rest => (c == '\n' || isTextChar c) && isLines rest

/-- The text after a line break at its start, if there is one. -/
def dropLineBreak : List Char → List Char
  | '\n' :: text => text
  | '\r' :: '\n' :: text => text
  | text => text

/-- Reads a text of one line between quotes, after the opening one. -/
def readLine : Char → Reader String
  | '"', text => do
    let (body, rest) ← untilUnescaped false text
    let text ← unescape false body
    return (text, rest)
  | quote, text => do
    let (body, rest) ← untilQuote quote text
    if body.all isTextChar then some (String.ofList body, rest) else none

/-- Reads a text of several lines between quotes, after the opening three. -/
def readLines : Char → Reader String
  | '"', text => do
    let (body, rest) ← untilThree '"' false (dropLineBreak text)
    let text ← unescape true body
    return (text, rest)
  | quote, text => do
    let (body, rest) ← untilThree quote false (dropLineBreak text)
    if isLines body then some (String.ofList body, rest) else none

/-- Reads a text between quotes of any kind. -/
def readQuoted : Reader String
  | '"' :: '"' :: '"' :: text => readLines '"' text
  | '\'' :: '\'' :: '\'' :: text => readLines '\'' text
  | '"' :: text => readLine '"' text
  | '\'' :: text => readLine '\'' text
  | _ => none

/-! ### Writing -/

/-- What decides how a text is quoted. -/
structure QuoteNeeds where
  /-- A backslash occurs. -/
  backslash : Bool
  /-- A line feed occurs. -/
  lineFeed : Bool
  /-- A control character other than a tab and a line feed occurs. -/
  control : Bool
  /-- The length of the longest run of double quotes. -/
  doubleQuotes : Nat
  /-- The length of the longest run of single quotes. -/
  singleQuotes : Nat

/-- The length of the longest run of a character, after `current` of them. -/
def longestRun (c : Char) (current : Nat) : List Char → Nat
  | [] => current
  | first :: rest =>
    if first = c then longestRun c (current + 1) rest else max current (longestRun c 0 rest)

/-- The needs of a text. -/
def QuoteNeeds.ofText (text : List Char) : QuoteNeeds where
  backslash := text.contains '\\'
  lineFeed := text.contains '\n'
  control := text.any fun c => !isTextChar c && c != '\n'
  doubleQuotes := longestRun '"' 0 text
  singleQuotes := longestRun '\'' 0 text

/-- The capital hexadecimal digit of a number below sixteen. -/
def capitalHexDigit (n : Nat) : Char :=
  (Nat.digitChar n).toUpper

/-- A character other than a double quote, between double quotes. Where a text goes over lines, a
line feed stands as it is. -/
def escapedChar (multiline : Bool) (c : Char) : List Char :=
  if c = '\x08' then ['\\', 'b']
  else if c = '\t' then ['\\', 't']
  else if c = '\n' then (if multiline then [c] else ['\\', 'n'])
  else if c = '\x0c' then ['\\', 'f']
  else if c = '\r' then ['\\', 'r']
  else if c = '\\' then ['\\', '\\']
  else if isTextChar c then [c]
  else
    ['\\', 'u', '0', '0', capitalHexDigit (c.toNat / 16), capitalHexDigit (c.toNat % 16)]

/-- A text between double quotes after `quotes` bare ones. Where a text goes over lines, two double
quotes may stand bare in a row; otherwise none may. -/
def escapedText (multiline : Bool) (quotes : Nat) : List Char → List Char
  | [] => []
  | c :: rest =>
    if c = '"' then
      if multiline ∧ quotes < 2 then '"' :: escapedText multiline (quotes + 1) rest
      else '\\' :: '"' :: escapedText multiline 0 rest
    else
      escapedChar multiline c ++ escapedText multiline 0 rest

/-- A text between double quotes, on one line. -/
def basic (text : List Char) : String :=
  "\"" ++ String.ofList (escapedText false 0 text) ++ "\""

/-- A text between single quotes, as it is. -/
def literal (text : List Char) : String :=
  "'" ++ String.ofList text ++ "'"

/-- A text between three quotes, with a line break after the opening if it goes over lines. -/
def threefold (quotes : String) (lineFeed : Bool) (body : List Char) : String :=
  quotes ++ (if lineFeed then "\n" else "") ++ String.ofList body ++ quotes

/-- A quoted text in the plainest way that needs no escapes: double quotes, single quotes, three
double quotes, three single quotes, and double quotes with escapes if none of them will do. -/
def quoteText (text : String) : String :=
  let body := text.toList
  let needs := QuoteNeeds.ofText body
  if !needs.control ∧ !needs.backslash ∧ !needs.lineFeed ∧ needs.doubleQuotes = 0 then
    basic body
  else if !needs.control ∧ !needs.lineFeed ∧ needs.singleQuotes = 0 then
    literal body
  else if !needs.control ∧ !needs.backslash ∧ needs.doubleQuotes < 3 then
    threefold "\"\"\"" needs.lineFeed (escapedText true 0 body)
  else if !needs.control ∧ needs.singleQuotes < 3 then
    threefold "'''" needs.lineFeed body
  else if needs.lineFeed then
    threefold "\"\"\"" true (escapedText true 0 body)
  else
    basic body

/-- Whether the character may stand in a key without quotes. -/
def isKeyChar (c : Char) : Bool :=
  c.isAlphanum || c == '_' || c == '-'

/-- A key, without quotes if that is possible. A key never goes over lines. -/
def quoteKey (key : String) : String :=
  let body := key.toList
  let needs := QuoteNeeds.ofText body
  if !body.isEmpty ∧ body.all isKeyChar then
    key
  else if !needs.control ∧ !needs.backslash ∧ !needs.lineFeed ∧ needs.doubleQuotes = 0 then
    basic body
  else if !needs.control ∧ !needs.lineFeed ∧ needs.singleQuotes = 0 then
    literal body
  else
    basic body

end ValueShadow.Toml
