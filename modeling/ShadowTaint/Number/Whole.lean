/-!
# Whole numbers as text

A whole number is a run of digits that is not empty, with a sign where signs are
allowed. Leading zeros mean nothing.
-/

namespace ShadowTaint
namespace Whole

/-- The value of one digit in a base up to sixteen, its letters in either case. -/
def digit? (base : Nat) (char : Char) : Option Nat :=
  let value? : Option Nat :=
    if '0' ≤ char ∧ char ≤ '9' then some (char.toNat - 48)
    else if 'a' ≤ char ∧ char ≤ 'f' then some (char.toNat - 87)
    else if 'A' ≤ char ∧ char ≤ 'F' then some (char.toNat - 55)
    else none
  value?.filter fun value => value < base

/-- The value of digits, onto the value of the digits before them. -/
def ofDigitsOnto? (base value : Nat) : List Char -> Option Nat
  | [] => some value
  | char :: rest =>
      match digit? base char with
      | some digit => ofDigitsOnto? base (base * value + digit) rest
      | none => none

/-- The value of a run of digits that is not empty. -/
def ofDigits? (base : Nat) : List Char -> Option Nat
  | [] => none
  | char :: rest => ofDigitsOnto? base 0 (char :: rest)

/-- The value of digits with an optional plus sign. -/
def unsigned? : List Char -> Option Nat
  | '+' :: rest => ofDigits? 10 rest
  | text => ofDigits? 10 text

/-- The value of digits with an optional sign. -/
def signed? : List Char -> Option Int
  | '-' :: rest => (ofDigits? 10 rest).map fun magnitude => -(magnitude : Int)
  | text => (unsigned? text).map Int.ofNat

/-- The number fits into a signed word of 64 bits. -/
def fits (value : Int) : Bool := Int64.minValue.toInt ≤ value && value ≤ Int64.maxValue.toInt

/-- A signed number of 64 bits. -/
def word? (text : List Char) : Option Int := (signed? text).filter fits

end Whole
end ShadowTaint
