import ValueShadow.Decimal.Shortest
import ValueShadow.Toml.Datetime

/-!
# Values of a TOML document

The values of a document, whose tables keep their keys in order, and the scalar values that are
written without quotes: truth values, integers of 64 bits, floating-point numbers, dates and times.
-/

namespace ValueShadow.Toml

/-- A floating-point number. -/
inductive FloatValue where
  | finite (negative : Bool) (magnitude : Binary64)
  | infinite (negative : Bool)
  | nan
  deriving DecidableEq, Repr

/-- A value of a document. -/
inductive Value where
  | string (text : String)
  | integer (value : Int)
  | float (value : FloatValue)
  | boolean (value : Bool)
  | datetime (value : Datetime)
  | array (items : List Value)
  | table (entries : List (String × Value))

/-- The text of a floating-point number: the shortest digits that are read as it, without an
exponent, and a digit after the point. -/
def FloatValue.text : FloatValue → String
  | .finite negative magnitude => (if negative then "-" else "") ++ magnitude.shortest.positional
  | .infinite negative => if negative then "-inf" else "inf"
  | .nan => "nan"

end ValueShadow.Toml
