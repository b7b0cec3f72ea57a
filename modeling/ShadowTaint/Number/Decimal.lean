/-!
# Decimal numerals

A numeral with a point or an exponent denotes a signed mantissa times a power of
ten. Programs hold such a number as a double, so a numeral is of use only if it
does not round to infinity. A program that multiplies doubles rounds three times:
the mantissa, the power of ten, and their product.
-/

namespace ShadowTaint

/-- A signed mantissa times a power of ten. -/
structure Decimal where
  negative : Bool
  mantissa : Nat
  exponent : Int
  deriving DecidableEq

namespace Decimal

/-- The value of a run of decimal digits. -/
def digitsValue (digits : List Char) : Nat :=
  digits.foldl (fun value digit => 10 * value + (digit.toNat - 48)) 0

/-- The least magnitude that rounds to infinity: half a unit in the last place
above the largest double. -/
def doubleLimit : Nat := Nat.pow 2 1024 - Nat.pow 2 970

/-- The position of the first digit of a nonzero number: it is below ten to this
power, and not below a tenth of that. -/
def magnitude (mantissa : Nat) (exponent : Int) : Int :=
  ((Nat.toDigits 10 mantissa).length : Int) + exponent

/-- A quotient rounded to the nearest integer, and to the even one of two. -/
def roundQuotient (numerator denominator : Nat) : Nat :=
  let quotient := numerator / denominator
  let twiceRest := 2 * (numerator % denominator)
  if twiceRest < denominator then quotient
  else if denominator < twiceRest then quotient + 1
  else quotient + quotient % 2

/-- A whole number rounded to 53 binary digits. -/
def roundWhole (value : Nat) : Nat :=
  let unit := Nat.pow 2 (value.log2 - 52)
  roundQuotient value unit * unit

/-- The largest power of ten that is held as a double. -/
def largestPower : Nat := 308

/-- A numeral is finite when its mantissa and its power of ten are held as doubles
and multiplied. Division never leads to infinity. -/
def isFinite (value : Decimal) : Bool :=
  value.mantissa == 0 || value.exponent < 0 ||
    (value.exponent ≤ largestPower &&
      roundWhole value.mantissa * roundWhole (Nat.pow 10 value.exponent.toNat) < doubleLimit)

end Decimal
end ShadowTaint
