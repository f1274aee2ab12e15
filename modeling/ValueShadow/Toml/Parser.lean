import ValueShadow.Toml.Draft
import ValueShadow.Toml.Quoted
import ValueShadow.Toml.Scalar

/-!
# Reading a document

`Toml.parse` reads the text of a document as a table, or finds that it is none. Arrays and inline
tables may stand inside one another to a limited depth, which bounds the recursion; the loops over
items and lines are bounded by the length of the text, since each round reads a character.
-/

namespace ValueShadow.Toml

/-- The text after its blanks. -/
def skipBlanks (text : List Char) : List Char :=
  text.dropWhile isBlank

/-- The text after blanks, line breaks and comments; `comment` tells whether it starts inside a
comment. -/
def skipLines (comment : Bool) : List Char → Option (List Char)
  | [] => some []
  | '\n' :: rest => skipLines false rest
  | '\r' :: '\n' :: rest => skipLines false rest
  | c :: rest =>
    if comment then (if isTextChar c then skipLines true rest else none)
    else if isBlank c then skipLines false rest
    else if c = '#' then skipLines true rest
    else some (c :: rest)

/-- The text after the end of a line: blanks, a comment, and a line break or the end of the text. -/
def skipLineEnd (text : List Char) : Option (List Char) :=
  let rest := match skipBlanks text with
    | '#' :: comment => comment.dropWhile isTextChar
    | rest => rest
  match rest with
  | [] => some []
  | '\n' :: rest => some rest
  | '\r' :: '\n' :: rest => some rest
  | _ => none

/-- Reads one part of a key: a quoted text of one line, or key characters. -/
def readKeyPart : Reader String
  | '"' :: text => readLine '"' text
  | '\'' :: text => readLine '\'' text
  | text =>
    let key := text.takeWhile isKeyChar
    if key.isEmpty then none else some (String.ofList key, text.dropWhile isKeyChar)

/-- Reads a key of at most `bound` parts, with dots between them: the parts on the way, and the last
one. -/
def readKey : Nat → Reader (List String × String)
  | 0, _ => none
  | bound + 1, text => do
    let (part, rest) ← readKeyPart text
    match skipBlanks rest with
    | '.' :: rest =>
      let ((path, key), rest) ← readKey bound (skipBlanks rest)
      return ((part :: path, key), rest)
    | rest => return (([], part), rest)

/-- Whether the character may stand in a scalar without quotes. -/
def isScalarChar (c : Char) : Bool :=
  c.isAlphanum || c == '+' || c == '-' || c == '_' || c == '.' || c == ':'

/-- Reads a scalar without quotes. One space may stand between a date and a time. -/
def readScalar : Reader Value := fun text =>
  let first := text.takeWhile isScalarChar
  let rest := text.dropWhile isScalarChar
  match Date.read first, rest with
  | some (_, []), ' ' :: second :: others =>
    if second.isDigit then
      let time := (second :: others).takeWhile isScalarChar
      let rest := (second :: others).dropWhile isScalarChar
      (Value.ofScalar? (first ++ ' ' :: time)).map (·, rest)
    else
      (Value.ofScalar? first).map (·, rest)
  | _, _ => (Value.ofScalar? first).map (·, rest)

/-- Reads the items of an array up to its bracket. -/
def readItems (item : Reader Value) : Nat → Reader (List Value)
  | 0, _ => none
  | bound + 1, text => do
    match ← skipLines false text with
    | ']' :: rest => return ([], rest)
    | text =>
      let (value, rest) ← item text
      match ← skipLines false rest with
      | ',' :: rest =>
        let (values, rest) ← readItems item bound rest
        return (value :: values, rest)
      | ']' :: rest => return ([value], rest)
      | _ => none

/-- Reads a key and its value. -/
def readDefinition (item : Reader Value) : Reader Entries.Definition := fun text => do
  let ((path, key), rest) ← readKey (text.length + 1) text
  match rest with
  | '=' :: rest =>
    let (value, rest) ← item (skipBlanks rest)
    return (⟨path, key, value⟩, rest)
  | _ => none

/-- Reads the definitions of an inline table up to its brace. -/
def readInline (item : Reader Value) : Nat → Reader (List Entries.Definition)
  | 0, _ => none
  | bound + 1, text => do
    match ← skipLines false text with
    | '\x7d' :: rest => return ([], rest)
    | text =>
      let (definition, rest) ← readDefinition item text
      match ← skipLines false rest with
      | ',' :: rest =>
        let (definitions, rest) ← readInline item bound rest
        return (definition :: definitions, rest)
      | '\x7d' :: rest => return ([definition], rest)
      | _ => none

/-- Reads a value in which at most `depth` arrays and inline tables stand inside one another. -/
def readValue : Nat → Reader Value
  | _, [] => none
  | depth, c :: rest =>
    if c = '"' ∨ c = '\'' then do
      let (text, rest) ← readQuoted (c :: rest)
      return (.string text, rest)
    else if c = '[' then
      match depth with
      | 0 => none
      | depth + 1 => do
        let (items, rest) ← readItems (readValue depth) (rest.length + 1) rest
        return (.array items, rest)
    else if c = '\x7b' then
      match depth with
      | 0 => none
      | depth + 1 => do
        let (definitions, rest) ← readInline (readValue depth) (rest.length + 1) rest
        let entries ← Entries.defineAll definitions []
        return (.table (finishEntries entries), rest)
    else
      readScalar (c :: rest)

/-- How deep arrays and inline tables may stand inside one another. -/
def maxDepth : Nat := 80

/-- What one line of a document says. -/
inductive Line where
  | blank
  | definition (found : Entries.Definition)
  | table (path : List String) (key : String)
  | element (path : List String) (key : String)

/-- Reads the key of a header. -/
def readHeaderKey (text : List Char) : Option ((List String × String) × List Char) :=
  readKey (text.length + 1) (skipBlanks text)

/-- Reads what a line says, up to blanks and a comment at its end. -/
def Line.read : Reader Line
  | [] => some (.blank, [])
  | '[' :: '[' :: text => do
    let ((path, key), rest) ← readHeaderKey text
    match rest with
    | ']' :: ']' :: rest => return (.element path key, rest)
    | _ => none
  | '[' :: text => do
    let ((path, key), rest) ← readHeaderKey text
    match rest with
    | ']' :: rest => return (.table path key, rest)
    | _ => none
  | c :: text =>
    if c = '#' ∨ c = '\n' ∨ c = '\r' then
      some (.blank, c :: text)
    else do
      let (found, rest) ← readDefinition (readValue maxDepth) (c :: text)
      return (.definition found, rest)

/-- Reads at most `bound` lines. -/
def readLinesUpTo : Nat → List Char → Option (List Line)
  | 0, _ => none
  | _ + 1, [] => some []
  | bound + 1, text => do
    let (line, rest) ← Line.read (skipBlanks text)
    let rest ← skipLineEnd rest
    return line :: (← readLinesUpTo bound rest)

/-- The definitions before the first header, and the lines from that header on. -/
def splitDefinitions : List Line → List Entries.Definition × List Line
  | [] => ([], [])
  | .blank :: lines => splitDefinitions lines
  | .definition definition :: lines =>
    let (definitions, rest) := splitDefinitions lines
    (definition :: definitions, rest)
  | header :: lines => ([], header :: lines)

/-- The entries of a document after lines that start with a header. -/
def addSections : List Line → Entries → Option Entries
  | [], entries => some entries
  | .table path key :: lines, entries => do
    addSections lines (← Entries.openTable path key (splitDefinitions lines).1 entries)
  | .element path key :: lines, entries => do
    addSections lines (← Entries.appendTable path key (splitDefinitions lines).1 entries)
  | .blank :: lines, entries => addSections lines entries
  | .definition _ :: lines, entries => addSections lines entries

/-- The entries of a document with these lines. -/
def entriesOf (lines : List Line) : Option Entries := do
  addSections lines (← Entries.defineAll (splitDefinitions lines).1 [])

/-- The document's text without the mark that may stand in front of it. -/
def dropMark : List Char → List Char
  | '\uFEFF' :: text => text
  | text => text

/-- Reads the text of a document as the entries of its table. -/
def parse (text : String) : Option (List (String × Value)) := do
  let text := dropMark text.toList
  let lines ← readLinesUpTo (text.length + 1) text
  return finishEntries (← entriesOf lines)

end ValueShadow.Toml
