import ShadowTaint.Number.Decimal
import ShadowTaint.Number.Whole

/-!
# Doubles

A finite double is a signed significand of at most 53 bits times a power of two.
A decimal numeral stands for the nearest double, the one with an even significand
if two are nearest. A double is written with the fewest digits that read back as
the same double, positionally and without a point when it is whole. Of several such
decimals it is the nearest, and of two that are equally near the larger magnitude.
-/

namespace ShadowTaint

/-- A double. -/
inductive Double
  | finite (negative : Bool) (significand : Nat) (exponent : Int)
  | infinite (negative : Bool)
  | notANumber
  deriving DecidableEq

namespace Double

/-- A ratio divided by a power of two, as numerator and denominator. -/
def scale (numerator denominator : Nat) (exponent : Int) : Nat × Nat :=
  if 0 ≤ exponent then (numerator, denominator * Nat.pow 2 exponent.toNat)
  else (numerator * Nat.pow 2 (-exponent).toNat, denominator)

/-- The nearest double to a positive ratio. -/
def nearest (negative : Bool) (numerator denominator : Nat) : Double :=
  let guess : Int := max ((numerator.log2 : Int) - denominator.log2 - 53) (-1074)
  let (top, bottom) := scale numerator denominator guess
  let exponent := if Nat.pow 2 53 ≤ top / bottom then guess + 1 else guess
  let (top, bottom) := scale numerator denominator exponent
  let significand := Decimal.roundQuotient top bottom
  let (significand, exponent) :=
    if significand = Nat.pow 2 53 then (Nat.pow 2 52, exponent + 1) else (significand, exponent)
  if 971 < exponent then .infinite negative else .finite negative significand exponent

/-- The double that a numeral stands for. -/
def ofDecimal (decimal : Decimal) : Double :=
  let magnitude := Decimal.magnitude decimal.mantissa decimal.exponent
  if decimal.mantissa = 0 ∨ magnitude < -330 then .finite decimal.negative 0 0
  else if 310 < magnitude then .infinite decimal.negative
  else if 0 ≤ decimal.exponent then
    nearest decimal.negative (decimal.mantissa * Nat.pow 10 decimal.exponent.toNat) 1
  else nearest decimal.negative decimal.mantissa (Nat.pow 10 (-decimal.exponent).toNat)

/-- The exponent that follows the digits of a numeral; without one it is zero. -/
def exponent? : List Char -> Option Int
  | [] => some 0
  | letter :: rest => if letter = 'e' ∨ letter = 'E' then Whole.signed? rest else none

/-- The double that a numeral without a sign stands for. There is a digit before
or behind the point. -/
def ofNumeral? (negative : Bool) (text : List Char) : Option Double := do
  let whole := text.takeWhile Char.isDigit
  let (fraction, rest) := match text.dropWhile Char.isDigit with
    | '.' :: rest => (rest.takeWhile Char.isDigit, rest.dropWhile Char.isDigit)
    | rest => ([], rest)
  guard !(whole.isEmpty && fraction.isEmpty)
  let exponent ← exponent? rest
  return ofDecimal ⟨negative, Decimal.digitsValue (whole ++ fraction),
    exponent - fraction.length⟩

/-- The double that a text stands for: a numeral or a name, with an optional
sign. -/
def ofText? (text : List Char) : Option Double :=
  let (negative, unsigned) := match text with
    | '-' :: rest => (true, rest)
    | '+' :: rest => (false, rest)
    | _ => (false, text)
  let name := String.ofList (unsigned.map Char.toLower)
  if name = "inf" ∨ name = "infinity" then some (.infinite negative)
  else if name = "nan" then some .notANumber
  else ofNumeral? negative unsigned

/-- The double is a number. -/
def isFinite : Double -> Bool
  | finite _ _ _ => true
  | _ => false

/-- The double is a zero. -/
def isZero : Double -> Bool
  | finite _ significand _ => significand == 0
  | _ => false

/-- A quotient rounded to the nearest integer, halves going up. -/
def roundHalfUp (numerator denominator : Nat) : Nat :=
  (2 * numerator + denominator) / (2 * denominator)

/-- The nearest whole number, halves going up, as an unsigned number of a given
size: what is out of range goes to the nearest end, and what is no number to
zero. -/
def toUnsigned (limit : Nat) : Double -> Nat
  | finite true _ _ | infinite true | notANumber => 0
  | infinite false => limit
  | finite false significand exponent =>
      let whole :=
        if 0 ≤ exponent then significand * Nat.pow 2 exponent.toNat
        else roundHalfUp significand (Nat.pow 2 (-exponent).toNat)
      min whole limit

/-- The decimals with a given exponent on either side of a ratio that read back
as the given double, the nearer one first. -/
def neighbours (double : Double) (negative : Bool) (numerator denominator : Nat)
    (exponent : Int) : Option Decimal :=
  let (top, bottom) :=
    if 0 ≤ exponent then (numerator, denominator * Nat.pow 10 exponent.toNat)
    else (numerator * Nat.pow 10 (-exponent).toNat, denominator)
  let nearer := roundHalfUp top bottom
  let other := if nearer * bottom ≤ top then nearer + 1 else nearer - 1
  ([nearer, other].map fun mantissa => Decimal.mk negative mantissa exponent).find?
    fun candidate => ofDecimal candidate == double

/-- The decimal with the fewest digits that reads back as the double. -/
def shortest (negative : Bool) (significand : Nat) (exponent : Int) : Decimal :=
  let double := finite negative significand exponent
  let (numerator, denominator) :=
    if 0 ≤ exponent then (significand * Nat.pow 2 exponent.toNat, 1)
    else (significand, Nat.pow 2 (-exponent).toNat)
  let top : Int := Decimal.magnitude (numerator * Nat.pow 10 400 / denominator) (-400)
  ((List.range 18).findSome? fun (digits : Nat) =>
    neighbours double negative numerator denominator (top - (digits : Int))).getD
    ⟨negative, 0, 0⟩

/-- Digits with a point at a given distance from their end. -/
def positional (digits : List Char) (exponent : Int) : List Char :=
  if 0 ≤ exponent then digits ++ List.replicate exponent.toNat '0'
  else
    let places := (-exponent).toNat
    let padded := List.replicate (places + 1 - digits.length) '0' ++ digits
    let whole := padded.take (padded.length - places)
    let fraction := padded.drop (padded.length - places)
    whole ++ '.' :: fraction

/-- A double in decimal. -/
def text : Double -> String
  | notANumber => "NaN"
  | infinite negative => if negative then "-inf" else "inf"
  | finite negative significand exponent =>
      let sign := if negative then ['-'] else []
      if significand = 0 then String.ofList (sign ++ ['0'])
      else
        let decimal := shortest negative significand exponent
        String.ofList
          (sign ++ positional (Nat.toDigits 10 decimal.mantissa) decimal.exponent)

end Double
end ShadowTaint
