/-!
# JSON values

The tree of a JSON text: names of objects keep their order. Numbers do not occur.
-/

namespace ValueShadow

/-- A JSON value without numbers. -/
inductive Json where
  | null
  | bool (value : Bool)
  | string (value : String)
  | array (items : List Json)
  | object (members : List (String × Json))

namespace Json

/-- The text of the value, or `null` if there is none. -/
def ofOption (value : Option Json) : Json :=
  value.getD .null

/-- The array of the texts. -/
def ofStrings (texts : List String) : Json :=
  .array (texts.map .string)

end Json

end ValueShadow
