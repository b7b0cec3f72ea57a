import ShadowTaint.Json.Basic

/-!
# JSON numerals

A numeral has a whole part, and may have a fraction and an exponent. Its digits
are gathered in a mantissa of 64 bits. From the first whole digit for which there
is no room, all whole digits count as zeros: they only raise the exponent. From
the first digit of the fraction for which there is no room, the fraction is cut
off.

A whole part alone is an integer if all of it has room. A negative integer needs
room for its sign as well, and minus zero is no integer.
-/

namespace ShadowTaint
namespace Numeral

/-! ## Parts -/

/-- A run of digits that is not empty, and what follows it. -/
def digits? (text : List Char) : Option (List Char × List Char) :=
  let digits := text.takeWhile Char.isDigit
  if digits.isEmpty then none else some (digits, text.dropWhile Char.isDigit)

/-- The whole part: zero, or digits that do not start with zero. -/
def wholePart? (text : List Char) : Option (List Char × List Char) :=
  match digits? text with
  | some ('0' :: _ :: _, _) => none
  | found => found

/-- The fraction, if there is one: its digits. -/
def fraction? (text : List Char) : Option (List Char × List Char) :=
  match text with
  | '.' :: rest => digits? rest
  | _ => some ([], text)

/-- The exponent, if there is one. -/
def exponent? (text : List Char) : Option (Option Int × List Char) :=
  match text with
  | 'e' :: rest | 'E' :: rest =>
      let (negative, unsigned) := match rest with
        | '-' :: rest => (true, rest)
        | '+' :: rest => (false, rest)
        | _ => (false, rest)
      (digits? unsigned).map fun found =>
        let magnitude : Int := Decimal.digitsValue found.1
        (some (if negative then -magnitude else magnitude), found.2)
  | _ => some (none, text)

/-! ## Mantissas -/

/-- A mantissa with one more digit, if it has room. -/
def push? (mantissa : Nat) (digit : Char) : Option Nat :=
  let longer := 10 * mantissa + (digit.toNat - 48)
  if longer < UInt64.size then some longer else none

/-- Gather whole digits. Those without room are counted. -/
def gatherWhole (mantissa : Nat) : List Char -> Nat × Nat
  | [] => (mantissa, 0)
  | digit :: rest =>
      match push? mantissa digit with
      | some longer => gatherWhole longer rest
      | none => (mantissa, rest.length + 1)

/-- Gather the digits of a fraction. Those with room are counted. -/
def gatherFraction (mantissa count : Nat) : List Char -> Nat × Nat
  | [] => (mantissa, count)
  | digit :: rest =>
      match push? mantissa digit with
      | some longer => gatherFraction longer (count + 1) rest
      | none => (mantissa, count)

/-- The integer with a sign and a magnitude below two to the power of 64. -/
def integer? (negative : Bool) (magnitude : Nat) : Option Int :=
  if !negative then some magnitude
  else if 1 ≤ magnitude ∧ 2 * magnitude ≤ UInt64.size then some (-(magnitude : Int))
  else none

/-- The value of the parts of a numeral. -/
def ofParts (negative : Bool) (whole fraction : List Char) (exponent : Option Int) : Json :=
  let (wholeMantissa, zeros) := gatherWhole 0 whole
  let (mantissa, places) := gatherFraction wholeMantissa 0 fraction
  let real := Json.real ⟨negative, mantissa, exponent.getD 0 + zeros - places⟩
  if fraction.isEmpty && exponent.isNone && zeros == 0 then
    ((integer? negative mantissa).map Json.integer).getD real
  else real

/-- The value of a numeral. -/
def read? (text : List Char) : Option Json := do
  let (negative, unsigned) := match text with
    | '-' :: rest => (true, rest)
    | _ => (false, text)
  let (whole, afterWhole) ← wholePart? unsigned
  let (fraction, afterFraction) ← fraction? afterWhole
  let (exponent, afterExponent) ← exponent? afterFraction
  guard afterExponent.isEmpty
  return ofParts negative whole fraction exponent

end Numeral
end ShadowTaint
