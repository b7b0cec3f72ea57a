import ShadowTaint.Config.Setting

/-!
# Scalars of settings files

What is written without quotes is a truth value, a number, or a moment in time. Digits
may be grouped by underscores. A whole number may be written in another base than ten, and
has to fit into a signed word of 64 bits. A moment is a date, a time, or both, and
then it may have an offset; it becomes a text in a form of its own.
-/

namespace ShadowTaint
namespace Toml

/-! ## Numbers -/

/-- Digits without the underscores between them. -/
def ungroup? (isDigit : Char -> Bool) : List Char -> Option (List Char)
  | [] => none
  | [digit] => if isDigit digit then some [digit] else none
  | digit :: '_' :: rest =>
      if isDigit digit then (ungroup? isDigit rest).map (digit :: ·) else none
  | digit :: next :: rest =>
      if isDigit digit then (ungroup? isDigit (next :: rest)).map (digit :: ·) else none

/-- The digits of a whole part: zero, or digits that do not start with zero. -/
def whole? (text : List Char) : Option (List Char) :=
  (ungroup? Char.isDigit text).filter fun digits =>
    digits.length == 1 || digits.head? != some '0'

/-- The value of digits in a base other than ten. -/
def based? (base : Nat) (text : List Char) : Option Nat :=
  (ungroup? (fun char => (Whole.digit? base char).isSome) text).bind (Whole.ofDigits? base)

/-- The value of digits in base ten. -/
def decimal? (text : List Char) : Option Nat := (whole? text).bind (Whole.ofDigits? 10)

/-- A word without a plus sign in front. -/
def withoutPlus : List Char -> List Char
  | '+' :: rest => rest
  | word => word

/-- The whole number that a word denotes, of any size. -/
def integer? (word : List Char) : Option Int :=
  match withoutPlus word with
  | '0' :: 'x' :: digits => (based? 16 digits).map Int.ofNat
  | '0' :: 'o' :: digits => (based? 8 digits).map Int.ofNat
  | '0' :: 'b' :: digits => (based? 2 digits).map Int.ofNat
  | '-' :: digits => (decimal? digits).map fun magnitude => -(magnitude : Int)
  | digits => (decimal? digits).map Int.ofNat

/-- The letter of an exponent. -/
def isExponentLetter (char : Char) : Bool := char == 'e' || char == 'E'

/-- An exponent with its letter and sign, without underscores; or nothing. -/
def exponent? : List Char -> Option (List Char)
  | [] => some []
  | _ :: '+' :: rest => (ungroup? Char.isDigit rest).map ('e' :: ·)
  | _ :: '-' :: rest => (ungroup? Char.isDigit rest).map ('e' :: '-' :: ·)
  | _ :: rest => (ungroup? Char.isDigit rest).map ('e' :: ·)

/-- A fraction with its point, without underscores; or nothing. -/
def fraction? : List Char -> Option (List Char)
  | [] => some []
  | _ :: rest => (ungroup? Char.isDigit rest).map ('.' :: ·)

/-- The numeral of a number with a fraction or an exponent. -/
def numeral? (text : List Char) : Option (List Char) := do
  let digits := text.takeWhile fun char => !isExponentLetter char
  let whole ← whole? (digits.takeWhile (· != '.'))
  let fraction ← fraction? (digits.dropWhile (· != '.'))
  let exponent ← exponent? (text.dropWhile fun char => !isExponentLetter char)
  return whole ++ fraction ++ exponent

/-- The number that a word without a plus sign denotes, which is finite unless the word
says otherwise. -/
def unsignedReal? (negative : Bool) (word : List Char) : Option Double :=
  if word = "inf".toList then some (.infinite negative)
  else if word = "nan".toList then some .notANumber
  else ((numeral? word).bind (Double.ofNumeral? negative)).filter Double.isFinite

/-- The number that a word denotes. -/
def real? (word : List Char) : Option Double :=
  match withoutPlus word with
  | '-' :: rest => unsignedReal? true rest
  | rest => unsignedReal? false rest

/-! ## Moments -/

/-- Digits have a value within bounds. -/
def isWithin (first last : Nat) (digits : List Char) : Bool :=
  match Whole.ofDigits? 10 digits with
  | some value => first ≤ value && value ≤ last
  | none => false

/-- Read a date. -/
def date? : List Char -> Option (List Char × List Char)
  | a :: b :: c :: d :: '-' :: e :: f :: '-' :: g :: h :: rest =>
      if isWithin 0 9999 [a, b, c, d] && isWithin 1 12 [e, f] && isWithin 1 31 [g, h] then
        some ([a, b, c, d, '-', e, f, '-', g, h], rest)
      else none
  | _ => none

/-- Parts of a second, up to nanoseconds, without zeros at the end. -/
def partsOfSecond (digits : List Char) : List Char :=
  match (digits.take 9).reverse.dropWhile (· == '0') with
  | [] => []
  | reversed => '.' :: reversed.reverse

/-- Read parts of a second, if there are any. -/
def readParts? : List Char -> Option (List Char × List Char)
  | '.' :: rest =>
      match rest.takeWhile Char.isDigit with
      | [] => none
      | digits => some (partsOfSecond digits, rest.dropWhile Char.isDigit)
  | rest => some ([], rest)

/-- Read a time. -/
def time? : List Char -> Option (List Char × List Char)
  | a :: b :: ':' :: c :: d :: ':' :: e :: f :: rest =>
      if isWithin 0 24 [a, b] && isWithin 0 59 [c, d] && isWithin 0 59 [e, f] then
        (readParts? rest).map fun parts => ([a, b, ':', c, d, ':', e, f] ++ parts.1, parts.2)
      else none
  | _ => none

/-- An offset, if there is one. It has no minus sign if it has no hours. -/
def offset? : List Char -> Option (List Char)
  | [] => some []
  | ['Z'] | ['z'] => some ['Z']
  | [sign, a, b, ':', c, d] =>
      if (sign == '+' || sign == '-') && isWithin 0 99 [a, b] && isWithin 0 99 [c, d] then
        some [if [a, b] = ['0', '0'] then '+' else sign, a, b, ':', c, d]
      else none
  | _ => none

/-- What stands between a date and a time. -/
def isDivider (char : Char) : Bool := char == 'T' || char == 't' || char == ' '

/-- The text of the moment that a word denotes. -/
def moment? (word : List Char) : Option (List Char) :=
  match time? word with
  | some (time, []) => some time
  | _ => do
      let (date, rest) ← date? word
      match rest with
      | [] => return date
      | divider :: rest =>
          let (time, rest) ← if isDivider divider then time? rest else none
          let offset ← offset? rest
          return date ++ 'T' :: time ++ offset

/-! ## Words -/

/-- The setting that a word denotes. -/
def scalar? (word : List Char) : Option Setting :=
  if word = "true".toList then some (.boolean true)
  else if word = "false".toList then some (.boolean false)
  else
    match integer? word with
    | some value => if Whole.fits value then some (.integer value) else none
    | none =>
        match real? word with
        | some value => some (.real value)
        | none => (moment? word).map fun text => .text (String.ofList text)

end Toml
end ShadowTaint
