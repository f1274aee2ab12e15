import ValueShadow.Toml.Quoted

/-!
# Writing a value

A value on one line, as it would stand in a document. Tables are written inside braces and keep the
order of their keys.
-/

namespace ValueShadow.Toml

mutual

/-- The text of a value. -/
def Value.display : Value → String
  | .string text => quoteText text
  | .integer value => toString value
  | .float value => value.text
  | .boolean value => if value then "true" else "false"
  | .datetime value => value.text
  | .array items => "[" ++ ", ".intercalate (displayItems items) ++ "]"
  | .table [] => "\x7b\x7d"
  | .table entries => "\x7b " ++ ", ".intercalate (displayEntries entries) ++ " \x7d"

/-- The texts of the items of an array. -/
def displayItems : List Value → List String
  | [] => []
  | item :: items => item.display :: displayItems items

/-- The texts of the entries of a table. -/
def displayEntries : List (String × Value) → List String
  | [] => []
  | (key, value) :: entries => (quoteKey key ++ " = " ++ value.display) :: displayEntries entries

end

end ValueShadow.Toml
