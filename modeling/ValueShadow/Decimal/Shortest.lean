import ValueShadow.Decimal.Binary64

/-!
# The shortest decimal form of a binary number

Of the decimal numbers that are read as a given binary one, `Binary64.shortest` gives the one with
the fewest digits, and the nearest of those. A number is read as another if it lies between the
midpoints to that one's neighbours, the midpoints included when the mantissa is even. The search
tries the powers of ten from the greatest down: if any multiple of a power lies in the interval, one
of the two around the number itself does.
-/

namespace ValueShadow

/-- The number `digits · 10 ^ exponent`. -/
structure DecimalNumber where
  digits : Nat
  exponent : Int
  deriving DecidableEq, Repr

namespace Binary64

/-- The quarter steps from the number down to the midpoint below. The step below a power of two is
half as wide. -/
def gapBelow (number : Binary64) : Nat :=
  if number.mantissa = mantissaBound / 2 ∧ minExponent < number.exponent then 1 else 2

/-- The factors that make `d · 10 ^ exponent` and `x` quarter steps of the number comparable:
`d · 10 ^ exponent` is at most `x` quarter steps iff `d * fst ≤ x * snd`. -/
def scale (number : Binary64) (exponent : Int) : Nat × Nat :=
  let (tenUp, tenDown) := power 10 exponent
  let (twoUp, twoDown) := power 2 (number.exponent - 2)
  (tenUp * twoDown, twoUp * tenDown)

/-- Whether `digits · 10 ^ exponent` is read as the number. -/
def reads (number : Binary64) (digits : Nat) (exponent : Int) : Bool :=
  let (left, right) := number.scale exponent
  let value := digits * left
  let low := (4 * number.mantissa - number.gapBelow) * right
  let high := (4 * number.mantissa + 2) * right
  if number.mantissa % 2 = 0 then low ≤ value && value ≤ high else low < value && value < high

/-- The nearest multiple of the power of ten that is read as the number; of two equally near ones
the greater. -/
def onGrid? (number : Binary64) (exponent : Int) : Option DecimalNumber :=
  let (left, right) := number.scale exponent
  let target := 4 * number.mantissa * right
  let below := target / left
  let above := below + 1
  match 0 < below && number.reads below exponent, number.reads above exponent with
  | true, true =>
    if target - below * left < above * left - target then some ⟨below, exponent⟩
    else some ⟨above, exponent⟩
  | true, false => some ⟨below, exponent⟩
  | false, true => some ⟨above, exponent⟩
  | false, false => none

/-- The result of the first power of ten from `10 ^ exponent` down that has one, among `count`. -/
def searchDown (number : Binary64) : Nat → Int → DecimalNumber
  | 0, exponent => ⟨0, exponent⟩
  | count + 1, exponent =>
    match number.onGrid? exponent with
    | some decimal => decimal
    | none => number.searchDown count (exponent - 1)

/-- The shortest decimal form of the number. -/
def shortest (number : Binary64) : DecimalNumber :=
  if number.mantissa = 0 then ⟨0, 0⟩ else number.searchDown 660 310

end Binary64

namespace DecimalNumber

/-- The number without an exponent, with a point and at least one digit on either side of it. -/
def positional (number : DecimalNumber) : String :=
  let digits := Nat.toDigits 10 number.digits
  match number.exponent with
  | .ofNat zeros => String.ofList (digits ++ List.replicate zeros '0' ++ ['.', '0'])
  | .negSucc n =>
    let places := n + 1
    let padded := List.replicate (places + 1 - digits.length) '0' ++ digits
    let whole := padded.length - places
    String.ofList (padded.take whole ++ '.' :: padded.drop whole)

end DecimalNumber

end ValueShadow
