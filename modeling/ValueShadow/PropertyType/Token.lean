import ValueShadow.PropertyType.Basic
import ValueShadow.Text.Blank
import ValueShadow.Text.Numeric

/-!
# Tokens of a type

A type is written with names, `<`, `>` and `,`, and blank characters between them. `Token.scan`
cuts a text into its tokens: a name is a run of name characters that is as long as possible. The
first character that is neither blank nor part of a token is the reason of a failure.
-/

namespace ValueShadow

open Text

/-- A token of a type. -/
inductive Token where
  | name (text : String)
  | opening
  | closing
  | comma
  deriving DecidableEq, Repr

/-- The text of a token. -/
def Token.text : Token → String
  | .name text => text
  | .opening => "<"
  | .closing => ">"
  | .comma => ","

/-- Why a text is not a type. -/
inductive TypeProblem where
  /-- A square bracket. -/
  | array
  /-- A question mark. -/
  | wildcard
  /-- A character that no token holds. -/
  | unexpectedChar (found : Char)
  /-- A token after the end of the type. -/
  | trailing (found : Token)
  /-- No name where a type starts: another token, or the end. -/
  | missingName (found : Option Token)
  /-- A name with an empty segment. -/
  | malformedName (name : String)
  /-- More than `limit` arguments inside one another. -/
  | tooDeep (limit : Nat)
  /-- A token other than `,` and `>` after an argument. -/
  | badSeparator (found : Token)
  /-- The end inside a list of arguments. -/
  | unclosed
  /-- Arguments after the name of a primitive-like type. -/
  | primitiveArguments (name : String)
  /-- A number of arguments that a container does not take. -/
  | argumentCount (kind : CollectionKind) (found : Nat)
  deriving DecidableEq, Repr

namespace TypeProblem

/-- The text of the problem. -/
def message : TypeProblem → String
  | .array => "array types are not supported"
  | .wildcard => "wildcard types are not supported"
  | .unexpectedChar found => "unexpected character `" ++ String.singleton found ++ "`"
  | .trailing found => "unexpected `" ++ found.text ++ "` after type"
  | .missingName (some found) => "expected a type name, found `" ++ found.text ++ "`"
  | .missingName none => "expected a type name"
  | .malformedName name => "malformed name `" ++ name ++ "`"
  | .tooDeep limit => "type arguments nested deeper than " ++ toString limit ++ " levels"
  | .badSeparator found => "expected `,` or `>`, found `" ++ found.text ++ "`"
  | .unclosed => "unclosed `<`"
  | .primitiveArguments name => "`" ++ name ++ "` takes no type arguments"
  | .argumentCount .list found => "List takes 1 type argument, found " ++ toString found
  | .argumentCount .map found => "Map takes 2 type arguments, found " ++ toString found

end TypeProblem

namespace Token

/-- Whether the character can stand in a name. -/
def isNameChar (c : Char) : Bool :=
  isAlphanumeric c || c == '_' || c == '$' || c == '.'

/-- The token that a character outside a name is, if any; a blank character is none. -/
def ofSymbol (c : Char) : Except TypeProblem (Option Token) :=
  if c = '<' then .ok (some .opening)
  else if c = '>' then .ok (some .closing)
  else if c = ',' then .ok (some .comma)
  else if isBlankChar c then .ok none
  else if c = '[' ∨ c = ']' then .error .array
  else if c = '?' then .error .wildcard
  else .error (.unexpectedChar c)

/-- The tokens after the name that ends here, with the name unless it is empty. -/
def afterName (name : List Char) (tokens : List Token) : List Token :=
  if name.isEmpty then tokens else .name (String.ofList name) :: tokens

/-- The tokens of a text whose characters so far end in the name characters `name`. -/
def scanFrom (name : List Char) : List Char → Except TypeProblem (List Token)
  | [] => .ok (afterName name [])
  | c :: rest =>
    if isNameChar c then
      scanFrom (name ++ [c]) rest
    else do
      let symbol ← ofSymbol c
      let tokens ← scanFrom [] rest
      return afterName name (symbol.toList ++ tokens)

/-- The tokens of a text. -/
def scan (text : String) : Except TypeProblem (List Token) :=
  scanFrom [] text.toList

end Token

end ValueShadow
