import ShadowTaint.Json.Basic

/-!
# Printing JSON

A value is printed either compactly, without any blanks, or with every item and
member on a line of its own, indented by two spaces per level. Both forms print
the same tokens. In strings, only quotes, backslashes and control characters
are escaped.
-/

namespace ShadowTaint
namespace Json

/-- One lower-case hexadecimal digit. -/
def hexDigit (value : Nat) : Char := Nat.digitChar (value % 16)

/-- A character as it is written within a string literal. -/
def escape (char : Char) : List Char :=
  if char = '"' then ['\\', '"']
  else if char = '\\' then ['\\', '\\']
  else if char.toNat = 0x08 then ['\\', 'b']
  else if char.toNat = 0x09 then ['\\', 't']
  else if char.toNat = 0x0A then ['\\', 'n']
  else if char.toNat = 0x0C then ['\\', 'f']
  else if char.toNat = 0x0D then ['\\', 'r']
  else if char.toNat < 0x20 then
    ['\\', 'u', '0', '0', hexDigit (char.toNat / 16), hexDigit char.toNat]
  else [char]

/-- A string literal. -/
def literal (text : String) : List Char :=
  '"' :: (text.toList.flatMap escape ++ ['"'])

/-- An integer in decimal. -/
def integerText (value : Int) : List Char :=
  match value with
  | .ofNat magnitude => Nat.toDigits 10 magnitude
  | .negSucc magnitude => '-' :: Nat.toDigits 10 (magnitude + 1)

/-- A numeral as mantissa and exponent. -/
def decimalText (value : Decimal) : List Char :=
  (if value.negative then ['-'] else []) ++ Nat.toDigits 10 value.mantissa ++
    'e' :: integerText value.exponent

/-- A value that is not a container. -/
def scalarText : Json -> List Char
  | null => "null".toList
  | boolean true => "true".toList
  | boolean false => "false".toList
  | integer value => integerText value
  | real value => decimalText value
  | string text => literal text
  | unpaired => "\"\\ud800\"".toList
  | array _ | object _ => []

/-- A line break followed by the indentation of a nesting level. -/
def lineBreak (level : Nat) : List Char := '\n' :: List.replicate (2 * level) ' '

mutual

/-- A value without blanks. -/
def compactChars : Json -> List Char
  | array items => '[' :: (compactItems items ++ [']'])
  | object members => '\x7b' :: (compactMembers members ++ ['\x7d'])
  | scalar => scalarText scalar

/-- Items separated by commas. -/
def compactItems : List Json -> List Char
  | [] => []
  | [item] => compactChars item
  | item :: next :: rest => compactChars item ++ ',' :: compactItems (next :: rest)

/-- Members separated by commas. -/
def compactMembers : List (String × Json) -> List Char
  | [] => []
  | [(name, value)] => literal name ++ ':' :: compactChars value
  | (name, value) :: next :: rest =>
      literal name ++ ':' :: (compactChars value ++ ',' :: compactMembers (next :: rest))

end

mutual

/-- A value with items and members on lines of their own. -/
def prettyChars (level : Nat) : Json -> List Char
  | array [] => ['[', ']']
  | array (item :: rest) =>
      '[' :: (prettyItems (level + 1) (item :: rest) ++ lineBreak level ++ [']'])
  | object [] => ['\x7b', '\x7d']
  | object (member :: rest) =>
      '\x7b' :: (prettyMembers (level + 1) (member :: rest) ++ lineBreak level ++ ['\x7d'])
  | scalar => scalarText scalar

/-- Items on lines of their own. -/
def prettyItems (level : Nat) : List Json -> List Char
  | [] => []
  | [item] => lineBreak level ++ prettyChars level item
  | item :: next :: rest =>
      lineBreak level ++ prettyChars level item ++ ',' :: prettyItems level (next :: rest)

/-- Members on lines of their own. -/
def prettyMembers (level : Nat) : List (String × Json) -> List Char
  | [] => []
  | [(name, value)] => lineBreak level ++ literal name ++ ':' :: ' ' :: prettyChars level value
  | (name, value) :: next :: rest =>
      lineBreak level ++ literal name ++
        ':' :: ' ' :: (prettyChars level value ++ ',' :: prettyMembers level (next :: rest))

end

/-- The compact text of a value. -/
def compact (value : Json) : String := String.ofList (compactChars value)

/-- The indented text of a value. -/
def pretty (value : Json) : String := String.ofList (prettyChars 0 value)

end Json
end ShadowTaint
