import ShadowTaint.Json.Numeral
import ShadowTaint.Number.Whole

/-!
# JSON tokens

The words of a JSON text: six marks, and scalars. A string literal is read up to
its closing quote; every other scalar is a maximal run of letters, digits, signs
and points, which has to be a literal name or a numeral as a whole. Blanks
separate tokens and mean nothing.
-/

namespace ShadowTaint

/-- A word of a JSON text. -/
inductive Token
  | openArray | closeArray | openObject | closeObject | comma | colon
  | scalar (value : Json)

namespace Token

/-- The blanks between tokens. -/
def isBlank (char : Char) : Bool :=
  char == ' ' || char == '\t' || char == '\n' || char == '\r'

/-- The characters of literal names and numerals. -/
def isWordChar (char : Char) : Bool :=
  char.isAlphanum || char == '+' || char == '-' || char == '.'

/-- The scalar that a run of word characters denotes. -/
def word? (text : List Char) : Option Json :=
  if text = "null".toList then some .null
  else if text = "true".toList then some (.boolean true)
  else if text = "false".toList then some (.boolean false)
  else Numeral.read? text

/-- The value of four hexadecimal digits. -/
def unit? (first second third fourth : Char) : Option Nat :=
  Whole.ofDigits? 16 [first, second, third, fourth]

/-- The character that a backslash and a letter stand for. -/
def simpleEscape? (char : Char) : Option Char :=
  match char with
  | '"' => some '"'
  | '\\' => some '\\'
  | '/' => some '/'
  | 'b' => some (Char.ofNat 0x08)
  | 'f' => some (Char.ofNat 0x0C)
  | 'n' => some '\n'
  | 'r' => some '\r'
  | 't' => some '\t'
  | _ => none

/-- What a string literal has denoted so far: its characters in reverse, a high
surrogate that waits for its partner, and whether some surrogate had none. -/
structure Literal where
  reversed : List Char
  pending : Option Nat
  unpaired : Bool

namespace Literal

/-- Nothing so far. -/
def empty : Literal := ⟨[], none, false⟩

/-- A character that is not part of a surrogate pair follows. -/
def push (literal : Literal) (char : Char) : Literal :=
  ⟨char :: literal.reversed, none, literal.unpaired || literal.pending.isSome⟩

/-- An escaped sixteen-bit unit follows. -/
def pushUnit (literal : Literal) (unit : Nat) : Literal :=
  if 0xD800 ≤ unit ∧ unit < 0xDC00 then
    { literal with
      pending := some unit
      unpaired := literal.unpaired || literal.pending.isSome }
  else if 0xDC00 ≤ unit ∧ unit < 0xE000 then
    match literal.pending with
    | some high =>
        ⟨Char.ofNat (0x10000 + (high - 0xD800) * 0x400 + (unit - 0xDC00)) :: literal.reversed,
          none, literal.unpaired⟩
    | none => { literal with unpaired := true }
  else literal.push (Char.ofNat unit)

/-- The value of the finished literal. -/
def value (literal : Literal) : Json :=
  if literal.unpaired || literal.pending.isSome then .unpaired
  else .string (String.ofList literal.reversed.reverse)

end Literal

/-- Read a string literal behind its opening quote. Control characters have to
be escaped. -/
def literal? (soFar : Literal) : List Char -> Option (Json × List Char)
  | '"' :: rest => some (soFar.value, rest)
  | '\\' :: 'u' :: first :: second :: third :: fourth :: rest =>
      match unit? first second third fourth with
      | some unit => literal? (soFar.pushUnit unit) rest
      | none => none
  | '\\' :: letter :: rest =>
      match simpleEscape? letter with
      | some char => literal? (soFar.push char) rest
      | none => none
  | char :: rest =>
      if char.toNat < 0x20 then none else literal? (soFar.push char) rest
  | [] => none

/-- What follows a string literal is shorter than the literal and it. -/
theorem literal?_shorter {input rest : List Char} {soFar : Literal} {value : Json}
    (found : literal? soFar input = some (value, rest)) : rest.length < input.length := by
  fun_induction literal? soFar input with
  | case1 soFar rest' =>
      cases found
      exact Nat.lt_succ_self _
  | case2 soFar first second third fourth rest' unit hexadecimal inductionHypothesis =>
      have := inductionHypothesis found
      simp only [List.length_cons]
      omega
  | case3 => cases found
  | case4 soFar letter rest' notUnit char escape inductionHypothesis =>
      have := inductionHypothesis found
      simp only [List.length_cons]
      omega
  | case5 => cases found
  | case6 => cases found
  | case7 soFar char rest' _ _ _ _ inductionHypothesis =>
      have := inductionHypothesis found
      simp only [List.length_cons]
      omega
  | case8 => cases found

/-- The mark that a character is. -/
def mark? (char : Char) : Option Token :=
  match char with
  | '[' => some openArray
  | ']' => some closeArray
  | '\x7b' => some openObject
  | '\x7d' => some closeObject
  | ',' => some comma
  | ':' => some colon
  | _ => none

/-- The token that starts with a given character, and what follows it. -/
def starting? (char : Char) (rest : List Char) : Option (Token × List Char) :=
  match mark? char with
  | some mark => some (mark, rest)
  | none =>
      if char = '"' then (literal? .empty rest).map fun found => (scalar found.1, found.2)
      else if isWordChar char then
        (word? (char :: rest.takeWhile isWordChar)).map fun value =>
          (scalar value, rest.dropWhile isWordChar)
      else none

/-- What follows a token is no longer than what follows its first character. -/
theorem starting?_shorter {char : Char} {rest behind : List Char} {token : Token}
    (found : starting? char rest = some (token, behind)) :
    behind.length < (char :: rest).length := by
  unfold starting? at found
  split at found
  · cases found
    exact Nat.lt_succ_self _
  · split at found
    · obtain ⟨⟨value, after⟩, read, equal⟩ := Option.map_eq_some_iff.1 found
      cases equal
      exact Nat.lt_succ_of_lt (literal?_shorter read)
    · split at found
      · obtain ⟨value, _, equal⟩ := Option.map_eq_some_iff.1 found
        cases equal
        exact Nat.lt_succ_of_le (List.dropWhile_sublist _).length_le
      · cases found

/-- Read tokens up to the end of a text, onto tokens in reverse. -/
def readOnto (reversed : List Token) (text : List Char) : Option (List Token) :=
  match text with
  | [] => some reversed.reverse
  | char :: rest =>
      if isBlank char then readOnto reversed rest
      else
        match found : starting? char rest with
        | some (token, behind) =>
            have := starting?_shorter found
            readOnto (token :: reversed) behind
        | none => none
termination_by text.length
decreasing_by
  · exact Nat.lt_succ_self _
  · exact this

/-- The tokens of a text. -/
def read (text : List Char) : Option (List Token) := readOnto [] text

end Token
end ShadowTaint
