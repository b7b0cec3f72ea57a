import ShadowTaint.Text.Blank

/-!
# Pattern options

Options decide how a pattern is read and what its parts can match. They are set by
letters within the pattern. In a verbose pattern, white space and comments may stand
between parts and mean nothing; a comment goes from a hash sign to the end of its
line.
-/

namespace ShadowTaint
namespace Pattern

/-- The options that hold at some place of a pattern. Letters for other options are
known, but nothing depends on them. -/
structure Options where
  /-- Upper and lower case are the same. -/
  ignoresCase : Bool
  /-- Characters are matched, rather than bytes. -/
  unicode : Bool
  /-- White space and comments mean nothing. -/
  verbose : Bool
  deriving DecidableEq

namespace Options

/-- The options at the start of a pattern. -/
def standard : Options := ⟨false, true, false⟩

/-- Turn the option of a letter on or off. -/
def turn? (options : Options) (letter : Char) (on : Bool) : Option Options :=
  match letter with
  | 'i' => some { options with ignoresCase := on }
  | 'u' => some { options with unicode := on }
  | 'x' => some { options with verbose := on }
  | 'm' | 's' | 'U' | 'R' => some options
  | _ => none

/-- Read letters up to a colon or a closing parenthesis, which is returned as well.
Those behind a dash are turned off. No letter comes twice, there is at most one
dash, and it is not the last. The letters seen so far are in reverse. -/
def letters? (options : Options) (seen : List Char) :
    List Char -> Option (Options × Char × List Char)
  | [] => none
  | char :: rest =>
      if char = ':' ∨ char = ')' then
        if seen.head? = some '-' then none else some (options, char, rest)
      else if seen.contains char then none
      else if char = '-' then options.letters? ('-' :: seen) rest
      else
        match options.turn? char (!seen.contains '-') with
        | some options => options.letters? (char :: seen) rest
        | none => none

/-- What comes behind white space and comments. -/
def skipBlanks (isInComment : Bool) : List Char -> List Char
  | [] => []
  | char :: rest =>
      if isInComment then skipBlanks (char != '\n') rest
      else if char = '#' then skipBlanks true rest
      else if Blank.isBlank char then skipBlanks false rest
      else char :: rest

/-- What comes behind anything that means nothing. -/
def skip (options : Options) (text : List Char) : List Char :=
  if options.verbose then skipBlanks false text else text

/-- The next character that is not blank, a single hash sign being passed over. -/
def peekBlanks (text : List Char) : Option Char :=
  match text.dropWhile Blank.isBlank with
  | '#' :: rest => (rest.dropWhile Blank.isBlank).head?
  | rest => rest.head?

/-- The next character that counts, before any is read. -/
def peek (options : Options) (text : List Char) : Option Char :=
  if options.verbose then peekBlanks text else text.head?

end Options
end Pattern
end ShadowTaint
