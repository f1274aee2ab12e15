/-!
# Binary floating-point numbers

The non-negative finite numbers of the 64-bit binary format, `mantissa · 2 ^ exponent`, and the one
nearest to a decimal number. All arithmetic is on natural numbers.
-/

namespace ValueShadow

/-- The number `mantissa · 2 ^ exponent`. In the standard form the mantissa has 53 bits, or fewer at
the least exponent. -/
structure Binary64 where
  mantissa : Nat
  exponent : Int
  deriving DecidableEq, Repr

namespace Binary64

/-- The least exponent. -/
def minExponent : Int := -1074

/-- The greatest exponent. -/
def maxExponent : Int := 971

/-- One more than the greatest mantissa. -/
def mantissaBound : Nat := Nat.pow 2 53

/-- The number zero. -/
def zero : Binary64 := ⟨0, minExponent⟩

/-- The quotient rounded to the nearest natural number, a tie to the even one. -/
def roundedQuotient (numerator denominator : Nat) : Nat :=
  let quotient := numerator / denominator
  let remainder := numerator % denominator
  if 2 * remainder < denominator then quotient
  else if 2 * remainder = denominator ∧ quotient % 2 = 0 then quotient
  else quotient + 1

/-- `base ^ exponent` as a fraction. -/
def power (base : Nat) (exponent : Int) : Nat × Nat :=
  match exponent with
  | .ofNat n => (base.pow n, 1)
  | .negSucc n => (1, base.pow (n + 1))

/-- The number nearest to a fraction, unless it is too great for the format. -/
def nearest? (numerator denominator : Nat) : Option Binary64 :=
  if numerator = 0 then
    some zero
  else
    let magnitude : Int := (Nat.log2 numerator : Int) - Nat.log2 denominator
    let scaled (exponent : Int) : Nat × Nat :=
      let (up, down) := power 2 exponent
      (numerator * down, denominator * up)
    let low := max (magnitude - 53) minExponent
    let (top, bottom) := scaled low
    let exponent := if top / bottom < mantissaBound then low else low + 1
    let (top, bottom) := scaled exponent
    let mantissa := roundedQuotient top bottom
    let (mantissa, exponent) :=
      if mantissa = mantissaBound then (mantissa / 2, exponent + 1) else (mantissa, exponent)
    if exponent ≤ maxExponent then some ⟨mantissa, exponent⟩ else none

/-- The decimal digits of a natural number, counted. -/
def digitCount (n : Nat) : Nat :=
  (Nat.toDigits 10 n).length

/-- The number nearest to `digits · 10 ^ exponent`, unless it is too great for the format. Decimal
numbers far outside its range are not expanded. -/
def ofDecimal? (digits : Nat) (exponent : Int) : Option Binary64 :=
  let magnitude := exponent + digitCount digits
  if digits = 0 ∨ magnitude < -330 then
    some zero
  else if magnitude > 330 then
    none
  else
    let (up, down) := power 10 exponent
    nearest? (digits * up) down

end Binary64

end ValueShadow
