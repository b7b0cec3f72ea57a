import Mathlib.Data.Option.Basic
import ShadowTaint.Json.Printer
import ShadowTaint.Json.Token

/-!
# Scalars are read as they are written

An integer of 64 bits is written with as many digits as it needs, and a reader finds
room for all of them. A string literal is written with the escapes that it needs, and
a reader undoes each of them. So both are read back as they were.
-/

namespace ShadowTaint

namespace Numeral

/-! ### Digits -/

/-- A number is written without leading zeros. -/
theorem head_toDigits_ne_zero {number : Nat} (positive : 0 < number) :
    ∃ first rest, Nat.toDigits 10 number = first :: rest ∧ first ≠ '0' := by
  induction number using Nat.base_induction 10 (by decide) with
  | single digit small =>
      refine ⟨digit.digitChar, [], Nat.toDigits_of_lt_base small, ?_⟩
      intro zero
      rw [Nat.digitChar_eq_zero] at zero
      omega
  | digit number digit small longer inductionHypothesis =>
      obtain ⟨first, rest, digits, notZero⟩ := inductionHypothesis longer
      refine ⟨first, rest ++ Nat.toDigits 10 digit, ?_, notZero⟩
      rw [← Nat.toDigits_append_toDigits (by decide) longer small, digits, List.cons_append]

theorem isDigit_of_mem_toDigits {number : Nat} {char : Char}
    (mem : char ∈ Nat.toDigits 10 number) :
    char.isDigit = true :=
  Nat.isDigit_of_mem_toDigits (by decide) (by decide) mem

theorem digits?_toDigits (number : Nat) :
    digits? (Nat.toDigits 10 number) = some (Nat.toDigits 10 number, []) := by
  have all : ∀ char ∈ Nat.toDigits 10 number, char.isDigit = true :=
    fun _ mem => isDigit_of_mem_toDigits mem
  have taken : (Nat.toDigits 10 number).takeWhile Char.isDigit = Nat.toDigits 10 number := by
    rw [← List.append_nil (Nat.toDigits 10 number), List.takeWhile_append_of_pos all,
      List.takeWhile_nil]
  have dropped : (Nat.toDigits 10 number).dropWhile Char.isDigit = [] := by
    rw [← List.append_nil (Nat.toDigits 10 number), List.dropWhile_append_of_pos all,
      List.dropWhile_nil]
  have some : ¬(Nat.toDigits 10 number).isEmpty = true := fun empty =>
    Nat.toDigits_ne_nil (List.isEmpty_iff.1 empty)
  rw [digits?, taken, dropped]
  exact if_neg some

theorem wholePart?_toDigits (number : Nat) :
    wholePart? (Nat.toDigits 10 number) = some (Nat.toDigits 10 number, []) := by
  rw [wholePart?, digits?_toDigits]
  obtain rfl | positive := Nat.eq_zero_or_pos number
  · rfl
  · obtain ⟨first, rest, digits, notZero⟩ := head_toDigits_ne_zero positive
    rw [digits]
    split
    · next found =>
        cases found
        exact absurd rfl notZero
    · rfl

/-! ### Mantissas -/

/-- More digits make no smaller mantissa. -/
theorem le_ofDigitChars (digits : List Char) (mantissa : Nat) :
    mantissa ≤ Nat.ofDigitChars 10 digits mantissa := by
  rw [Nat.ofDigitChars_eq_ofDigitChars_zero]
  have := Nat.le_mul_of_pos_left mantissa (Nat.pow_pos (by decide : 0 < 10) (n := digits.length))
  omega

/-- One digit is gathered, and then those behind it. -/
theorem gatherWhole_cons (mantissa : Nat) (digit : Char) (rest : List Char) :
    gatherWhole mantissa (digit :: rest) =
      match push? mantissa digit with
      | some longer => gatherWhole longer rest
      | none => (mantissa, rest.length + 1) := by
  with_unfolding_all rfl

/-- Digits whose value has room are all gathered. -/
theorem gatherWhole_eq (digits : List Char) (mantissa : Nat)
    (room : Nat.ofDigitChars 10 digits mantissa < UInt64.size) :
    gatherWhole mantissa digits = (Nat.ofDigitChars 10 digits mantissa, 0) := by
  induction digits generalizing mantissa with
  | nil => rfl
  | cons digit rest inductionHypothesis =>
      have cons : Nat.ofDigitChars 10 (digit :: rest) mantissa =
          Nat.ofDigitChars 10 rest (10 * mantissa + (digit.toNat - 48)) :=
        Nat.ofDigitChars_cons
      rw [cons] at room ⊢
      have pushed : push? mantissa digit = some (10 * mantissa + (digit.toNat - 48)) :=
        if_pos (Nat.lt_of_le_of_lt (le_ofDigitChars rest _) room)
      rw [gatherWhole_cons, pushed]
      exact inductionHypothesis _ room

/-- Digits alone are a whole number if it has room. -/
theorem ofParts_toDigits {number : Nat} (room : number < UInt64.size) (negative : Bool) :
    ofParts negative (Nat.toDigits 10 number) [] none =
      ((integer? negative number).map Json.integer).getD (.real ⟨negative, number, 0⟩) := by
  have gathered := gatherWhole_eq (Nat.toDigits 10 number) 0
  rw [Nat.ofDigitChars_ten_toDigits] at gathered
  rw [ofParts, gathered room]
  rfl

/-- A number without a sign is read as it is written. -/
theorem read?_toDigits {number : Nat} (room : number < UInt64.size) :
    read? (Nat.toDigits 10 number) = some (.integer number) := by
  have unsigned : ∀ rest, Nat.toDigits 10 number = '-' :: rest → False := by
    intro rest signed
    have digit : '-'.isDigit = true := isDigit_of_mem_toDigits (signed ▸ List.mem_cons_self)
    exact absurd digit (by decide)
  have parts := ofParts_toDigits room false
  have whole := wholePart?_toDigits number
  rw [read?]
  · rw [whole]
    exact congrArg some parts
  · exact unsigned

/-- An integer of 64 bits, with a sign or without. -/
def Fits (value : Int) : Prop := Int64.minValue.toInt ≤ value ∧ value < UInt64.size

/-- An integer of 64 bits is read as it is written. -/
theorem read?_integerText {value : Int} (fits : Fits value) :
    read? (Json.integerText value) = some (.integer value) := by
  obtain ⟨low, high⟩ := fits
  cases value with
  | ofNat magnitude => exact read?_toDigits (Int.ofNat_lt.1 high)
  | negSucc magnitude =>
      have small : 1 ≤ magnitude + 1 ∧ 2 * (magnitude + 1) ≤ UInt64.size := by
        rw [Int64.toInt_minValue] at low
        rw [UInt64.size]
        omega
      have room : magnitude + 1 < UInt64.size := by
        rw [UInt64.size] at small ⊢
        omega
      have signed : integer? true (magnitude + 1) = some (.negSucc magnitude) := if_pos small
      have parts := ofParts_toDigits room true
      rw [signed] at parts
      rw [Json.integerText, read?]
      dsimp only
      rw [wholePart?_toDigits]
      exact congrArg some parts

end Numeral

namespace Token

/-! ### Words -/

theorem mem_integerText {value : Int} {char : Char} (mem : char ∈ Json.integerText value) :
    char = '-' ∨ char.isDigit = true := by
  cases value with
  | ofNat magnitude => exact .inr (Numeral.isDigit_of_mem_toDigits mem)
  | negSucc magnitude =>
      obtain sign | digit := List.mem_cons.1 mem
      · exact .inl sign
      · exact .inr (Numeral.isDigit_of_mem_toDigits digit)

theorem isWordChar_of_mem_integerText {value : Int} {char : Char}
    (mem : char ∈ Json.integerText value) :
    isWordChar char = true := by
  obtain rfl | digit := mem_integerText mem
  · rfl
  · rw [isWordChar, Char.isAlphanum, digit, Bool.or_true]
    rfl

/-- An integer is not taken for the name of a literal. -/
theorem word?_integerText {value : Int} (fits : Numeral.Fits value) :
    word? (Json.integerText value) = some (.integer value) := by
  have noName {first : Char} {rest : List Char}
      (letter : ¬(first = '-' ∨ first.isDigit = true)) :
      Json.integerText value ≠ first :: rest := fun name =>
    letter (mem_integerText (name ▸ List.mem_cons_self))
  have notNull : Json.integerText value ≠ "null".toList := noName (by decide)
  have notTrue : Json.integerText value ≠ "true".toList := noName (by decide)
  have notFalse : Json.integerText value ≠ "false".toList := noName (by decide)
  rw [word?, if_neg notNull, if_neg notTrue, if_neg notFalse, Numeral.read?_integerText fits]

/-! ### String literals -/

/-- Two hexadecimal digits are enough for a control character. -/
theorem unit?_hexDigit : ∀ code < 0x20,
    unit? '0' '0' (Json.hexDigit (code / 16)) (Json.hexDigit code) = some code := by
  decide

/-- A character is read as it is written, with an escape or without. -/
theorem literal?_escape (reversed : List Char) (char : Char) (rest : List Char) :
    literal? ⟨reversed, none, false⟩ (Json.escape char ++ rest) =
      literal? ⟨char :: reversed, none, false⟩ rest := by
  have ofCode {code : Nat} (named : char.toNat = code) : char = Char.ofNat code := by
    rw [← named, Char.ofNat_toNat]
  rw [Json.escape]
  split
  · next quote => rw [quote]; rfl
  split
  · next backslash => rw [backslash]; rfl
  split
  · next code => rw [ofCode code]; rfl
  split
  · next code => rw [ofCode code]; rfl
  split
  · next code => rw [ofCode code]; rfl
  split
  · next code => rw [ofCode code]; rfl
  split
  · next code => rw [ofCode code]; rfl
  split
  · next control =>
      have unit := unit?_hexDigit char.toNat control
      have pushed : Literal.pushUnit ⟨reversed, none, false⟩ char.toNat =
          ⟨char :: reversed, none, false⟩ := by
        rw [Literal.pushUnit, if_neg (by omega), if_neg (by omega), Char.ofNat_toNat]
        rfl
      show literal? _ ('\\' :: 'u' :: '0' :: '0' :: _ :: _ :: rest) = _
      rw [literal?, unit]
      dsimp only
      rw [pushed]
  · next quote backslash _ _ _ _ _ printable =>
      show literal? _ (char :: rest) = _
      rw [literal?, if_neg printable]
      · rfl
      · exact quote
      · exact fun _ _ _ _ _ same _ => backslash same
      · exact fun _ _ same _ => backslash same

/-- A string literal is read as it is written. -/
theorem literal?_literal (reversed text rest : List Char) :
    literal? ⟨reversed, none, false⟩ (text.flatMap Json.escape ++ '"' :: rest) =
      some (.string (String.ofList (reversed.reverse ++ text)), rest) := by
  induction text generalizing reversed with
  | nil =>
      rw [List.append_nil]
      rfl
  | cons char text inductionHypothesis =>
      rw [List.flatMap_cons, List.append_assoc, literal?_escape, inductionHypothesis,
        List.reverse_cons, List.append_assoc, List.singleton_append]

end Token
end ShadowTaint
