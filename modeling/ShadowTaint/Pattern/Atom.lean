import ShadowTaint.Number.Whole
import ShadowTaint.Pattern.Options

/-!
# Pattern atoms

An atom is a part of a pattern without parts of its own. It is a character, or it is
written with a backslash. Not every atom can be matched under all options: there is
no table of the cases of letters and none of the classes of characters, and what is
matched has to be text.
-/

namespace ShadowTaint
namespace Pattern

/-- A part of a pattern without parts of its own. -/
inductive Atom
  /-- A character, and whether it is written as the code of a byte. -/
  | literal (char : Char) (isByte : Bool)
  /-- Any character. -/
  | anything
  /-- The start or the end of a line or text. -/
  | anchor
  /-- The start or the end of a word. -/
  | boundary
  /-- A class of characters with a letter of its own, or all others. -/
  | shorthand (isNegated : Bool)

namespace Atom

/-- The characters that mean themselves behind a backslash. -/
def isPunctuation (char : Char) : Bool :=
  char.toNat < 0x80 && !char.isAlphanum && char != '<' && char != '>'

/-- The character that a backslash and a letter stand for. -/
def control? : Char -> Option Char
  | 'a' => some (Char.ofNat 0x07)
  | 'f' => some (Char.ofNat 0x0C)
  | 't' => some '\t'
  | 'n' => some '\n'
  | 'r' => some '\r'
  | 'v' => some (Char.ofNat 0x0B)
  | _ => none

/-- Read a number of hexadecimal digits, onto the value of those before them. -/
def digits? (options : Options) : Nat -> Nat -> List Char -> Option (Nat × List Char)
  | 0, value, text => some (value, text)
  | count + 1, value, text =>
      match options.skip text with
      | [] => none
      | char :: rest =>
          match Whole.digit? 16 char with
          | some digit => digits? options count (16 * value + digit) rest
          | none => none

/-- Read the code of a character. -/
def coded? (options : Options) (count : Nat) (isByte : Bool) (text : List Char) :
    Option (Atom × List Char) :=
  match digits? options count 0 text with
  | some (code, rest) =>
      if code.isValidChar then some (.literal (Char.ofNat code) isByte, rest) else none
  | none => none

/-- The atom that a backslash and a character without a code stand for. -/
def escaped? (char : Char) : Option Atom :=
  match char with
  | 'd' | 's' | 'w' => some (.shorthand false)
  | 'D' | 'S' | 'W' => some (.shorthand true)
  | 'A' | 'z' => some .anchor
  | 'b' | 'B' | '<' | '>' => some .boundary
  | _ =>
      if isPunctuation char then some (.literal char false)
      else (control? char).map fun control => .literal control false

/-- Read an atom behind its backslash. -/
def escape? (options : Options) (text : List Char) : Option (Atom × List Char) :=
  match text with
  | [] => none
  | 'x' :: rest => coded? options 2 true rest
  | 'u' :: rest => coded? options 4 false rest
  | 'U' :: rest => coded? options 8 false rest
  | char :: rest => (escaped? char).map fun atom => (atom, rest)

/-- Read an atom. -/
def read? (options : Options) (text : List Char) : Option (Atom × List Char) :=
  match text with
  | [] => none
  | '\\' :: rest => escape? options rest
  | '.' :: rest => some (.anything, rest)
  | '^' :: rest | '$' :: rest => some (.anchor, rest)
  | char :: rest => some (.literal char false, rest)

/-- Read an atom within a set. -/
def readInSet? (options : Options) (text : List Char) : Option (Atom × List Char) :=
  match text with
  | [] => none
  | '\\' :: rest => escape? options rest
  | char :: rest => some (.literal char false, rest)

/-- The code of a character. -/
def code? : Atom -> Option Nat
  | literal char _ => some char.toNat
  | _ => none

/-- An atom can be matched. -/
def isUsable (options : Options) : Atom -> Bool
  | literal char isByte =>
      if options.unicode then !options.ignoresCase else !isByte || char.toNat < 0x80
  | anything => options.unicode
  | anchor => true
  | boundary => !options.unicode
  | shorthand isNegated => !options.unicode && !isNegated

/-- An atom can be matched within a set. -/
def isUsableInSet (options : Options) : Atom -> Bool
  | literal char _ => if options.unicode then !options.ignoresCase else char.toNat < 0x80
  | shorthand isNegated => !options.unicode && !isNegated
  | anything | anchor | boundary => false

end Atom
end Pattern
end ShadowTaint
