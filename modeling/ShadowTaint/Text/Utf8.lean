import ShadowTaint.Fault

/-!
# Text in UTF-8

Files are read as bytes. Those that should hold text are decoded as UTF-8, and
bytes that are not well formed are no text. Positions in a text count bytes; a text
can only be cut between characters.
-/

namespace ShadowTaint
namespace Utf8

/-- The text of bytes. -/
def decode? (bytes : List UInt8) : Option (List Char) :=
  (String.fromUTF8? ⟨bytes.toArray⟩).map String.toList

/-- The bytes of a text. -/
def encode (text : String) : List UInt8 := text.toUTF8.toList

/-- The number of bytes of a text. -/
def size (text : List Char) : Nat := (text.map Char.utf8Size).foldr (· + ·) 0

/-- The parts of a text before and behind a position, if a character ends there. -/
def splitAt? (position : Nat) : List Char -> Option (List Char × List Char)
  | [] => if position = 0 then some ([], []) else none
  | char :: rest =>
      if position = 0 then some ([], char :: rest)
      else if char.utf8Size ≤ position then
        (splitAt? (position - char.utf8Size) rest).map fun parts => (char :: parts.1, parts.2)
      else none

/-- What comes behind a position. -/
def suffixFrom (text : List Char) (first : Nat) : Except Fault (List Char) :=
  match splitAt? first text with
  | some parts => .ok parts.2
  | none => .error (.textBoundary first)

/-- What stands between two positions. -/
def slice (text : List Char) (first past : Nat) : Except Fault (List Char) := do
  let rest ← suffixFrom text first
  match splitAt? (past - first) rest with
  | some parts => .ok parts.1
  | none => .error (.textBoundary past)

end Utf8
end ShadowTaint
