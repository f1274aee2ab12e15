import ValueShadow.Text.Case
import ValueShadow.Text.Numeric

/-!
# Identifiers

What the generated source accepts as the name of a class, field, method or variable, and the names
that are derived from a property's: its getter and its capitalised and decapitalised forms.
-/

namespace ValueShadow

open Text

/-- The words that are spelled like identifiers and reserved by the generated language. -/
def reservedWords : List String :=
  ["abstract", "assert", "boolean", "break", "byte", "case", "catch", "char", "class", "const",
    "continue", "default", "do", "double", "else", "enum", "extends", "false", "final", "finally",
    "float", "for", "goto", "if", "implements", "import", "instanceof", "int", "interface", "long",
    "native", "new", "null", "package", "private", "protected", "public", "return", "short",
    "static", "strictfp", "super", "switch", "synchronized", "this", "throw", "throws",
    "transient", "true", "try", "void", "volatile", "while", "_"]

/-- Whether an identifier may start with the character. -/
def isIdentifierStart (c : Char) : Bool :=
  isAlphabetic c || c == '_' || c == '$'

/-- Whether an identifier may go on with the character. -/
def isIdentifierPart (c : Char) : Bool :=
  isAlphanumeric c || c == '_' || c == '$'

/-- Whether the characters are spelled like an identifier, reserved or not. -/
def spellsIdentifier : List Char → Bool
  | [] => false
  | c :: rest => isIdentifierStart c && rest.all isIdentifierPart

/-- Whether the text is an identifier: spelled like one and not reserved. -/
def isIdentifier (text : String) : Bool :=
  spellsIdentifier text.toList && !reservedWords.contains text

/-- The text with its first character in upper case. -/
def capitalize (text : String) : String :=
  match text.toList with
  | [] => ""
  | c :: rest => String.ofList (upper c ++ rest)

/-- The text with its first character in lower case. -/
def decapitalize (text : String) : String :=
  match text.toList with
  | [] => ""
  | c :: rest => String.ofList (lower c ++ rest)

/-- The name of the method that reads a property from a shadow object. -/
def getterName (property : String) : String :=
  "get" ++ capitalize property

/-- A character that may start an identifier may also stand inside one. -/
theorem isIdentifierPart_of_isIdentifierStart {c : Char} (start : isIdentifierStart c = true) :
    isIdentifierPart c = true := by
  simp only [isIdentifierStart, isIdentifierPart, isAlphanumeric, Bool.or_eq_true] at *
  rcases start with (alphabetic | underscore) | dollar
  · exact .inl (.inl (.inl alphabetic))
  · exact .inl (.inr underscore)
  · exact .inr dollar

end ValueShadow
