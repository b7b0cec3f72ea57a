import ShadowTaint.Number.Whole

/-!
# The words of settings files

A settings file is written in TOML. A scanner takes its text one character at a time
and cuts it into words: marks, ends of lines, blanks, bare words and strings. Comments
are no words. What does not belong to any word makes the file unreadable, wherever it
stands.

A string is basic or literal, which its quote tells, and backslashes mean something in
basic strings only. Three quotes begin and end a string that may go on over several
lines.
-/

namespace ShadowTaint
namespace Toml

/-- A word of a settings file. -/
inductive Lexeme
  | newline
  /-- Blanks, which may be one space alone. -/
  | blanks (isSpace : Bool)
  | equals | period | comma | colon | plus
  | openBrace | closeBrace | openBracket | closeBracket
  | bare (text : List Char)
  /-- A string, which may have three quotes. -/
  | quoted (text : String) (isLong : Bool)
  deriving DecidableEq

/-- The blanks within a line. -/
def isBlank (char : Char) : Bool := char == ' ' || char == '\t'

/-- The characters that may stand in comments. -/
def isCommentChar (char : Char) : Bool := char == '\t' || 0x20 ≤ char.toNat

/-- The characters that may stand in strings. -/
def isPrintable (char : Char) : Bool := isCommentChar char && char.toNat != 0x7F

/-- The characters of bare words. -/
def isBareChar (char : Char) : Bool := char.isAlphanum || char == '_' || char == '-'

/-- The mark that a character is. -/
def mark? : Char -> Option Lexeme
  | '\n' => some .newline
  | '=' => some .equals
  | '.' => some .period
  | ',' => some .comma
  | ':' => some .colon
  | '+' => some .plus
  | '\x7b' => some .openBrace
  | '\x7d' => some .closeBrace
  | '[' => some .openBracket
  | ']' => some .closeBracket
  | _ => none

/-! ## Strings -/

/-- The kinds of strings. -/
inductive Quote
  | basic | literal
  deriving DecidableEq

namespace Quote

/-- The quote of a kind of string. -/
def char : Quote -> Char
  | basic => '"'
  | literal => '\''

/-- The kind of string that begins with a quote. -/
def ofChar? : Char -> Option Quote
  | '"' => some basic
  | '\'' => some literal
  | _ => none

end Quote

/-- What a scanner has just read of a string. -/
inductive StringPhase
  /-- The three quotes in front. A newline behind them does not count. -/
  | start
  | inside
  /-- Quotes within three quotes. -/
  | quotes (count : Nat)
  /-- A backslash. -/
  | escape
  /-- Digits of the code of a character, in reverse, of which some are missing. -/
  | code (missing : Nat) (reversed : List Char)
  /-- A backslash and blanks. The line has to end. -/
  | lineEnd
  /-- A backslash, the end of a line, and blanks and ends of lines. They do not count. -/
  | skipping
  deriving DecidableEq

/-- A string that has been read in part, its characters in reverse. -/
structure StringDraft where
  quote : Quote
  isLong : Bool
  reversed : List Char
  phase : StringPhase
  deriving DecidableEq

/-- The character that a backslash and a letter stand for. -/
def escape? : Char -> Option Char
  | '"' => some '"'
  | '\\' => some '\\'
  | 'b' => some (Char.ofNat 0x08)
  | 'f' => some (Char.ofNat 0x0C)
  | 'n' => some '\n'
  | 'r' => some '\r'
  | 't' => some '\t'
  | _ => none

/-- How many digits the code behind a backslash and a letter has. -/
def codeLength? : Char -> Option Nat
  | 'u' => some 4
  | 'U' => some 8
  | _ => none

/-- The character with a code in hexadecimal. -/
def coded? (digits : List Char) : Option Char :=
  match Whole.ofDigits? 16 digits with
  | some code => if code.isValidChar then some (Char.ofNat code) else none
  | none => none

namespace StringDraft

/-- The string that was read. -/
def lexeme (draft : StringDraft) : Lexeme :=
  .quoted (String.ofList draft.reversed.reverse) draft.isLong

/-- A string with quotes behind it that belong to it. -/
def pushQuotes (draft : StringDraft) (count : Nat) : StringDraft :=
  { draft with reversed := List.replicate count draft.quote.char ++ draft.reversed }

/-- A string with one more character. -/
def push (draft : StringDraft) (char : Char) : StringDraft :=
  { draft with reversed := char :: draft.reversed, phase := .inside }

/-- What a character makes of a string in which nothing else is going on, unless it is
the quote of the string. -/
def inside? (draft : StringDraft) (char : Char) : Option StringDraft :=
  if char = '\n' then if draft.isLong then some (draft.push char) else none
  else if char = '\\' ∧ draft.quote = .basic then some { draft with phase := .escape }
  else if isPrintable char then some (draft.push char)
  else none

/-- What the character behind a backslash makes of a string. -/
def escaped? (draft : StringDraft) (char : Char) : Option StringDraft :=
  match escape? char, codeLength? char with
  | some meant, _ => some (draft.push meant)
  | none, some length => some { draft with phase := .code length [] }
  | none, none =>
      if !draft.isLong then none
      else if char = '\n' then some { draft with phase := .skipping }
      else if isBlank char then some { draft with phase := .lineEnd }
      else none

end StringDraft

/-! ## Scanning -/

/-- What a scanner is reading. -/
inductive Reading
  | nothing
  | blanks (isSpace : Bool)
  | bare (reversed : List Char)
  | comment
  /-- One quote or two, which may begin a string or be an empty one. -/
  | opening (quote : Quote) (isTwo : Bool)
  | string (draft : StringDraft)

/-- A scanner, with the words that it has found in reverse. -/
structure Scanner where
  reversed : List Lexeme
  reading : Reading

namespace Scanner

/-- A scanner at the beginning of a text. -/
def start : Scanner := ⟨[], .nothing⟩

/-- A word is complete. -/
def found (scanner : Scanner) (lexeme : Lexeme) : Scanner := ⟨lexeme :: scanner.reversed, .nothing⟩

/-- A character begins a word or a comment. -/
def begin? (scanner : Scanner) (char : Char) : Option Scanner :=
  match mark? char, Quote.ofChar? char with
  | some mark, _ => some (scanner.found mark)
  | none, some quote => some { scanner with reading := .opening quote false }
  | none, none =>
      if isBlank char then some { scanner with reading := .blanks (char == ' ') }
      else if char = '#' then some { scanner with reading := .comment }
      else if isBareChar char then some { scanner with reading := .bare [char] }
      else none

/-- Go on with a string, unless there is none. -/
def string? (scanner : Scanner) (draft : Option StringDraft) : Option Scanner :=
  draft.map fun draft => { scanner with reading := .string draft }

/-- A character stands in a string in which nothing else is going on. -/
def inString? (scanner : Scanner) (draft : StringDraft) (char : Char) : Option Scanner :=
  if char = draft.quote.char then
    if draft.isLong then scanner.string? (some { draft with phase := .quotes 1 })
    else some (scanner.found draft.lexeme)
  else scanner.string? (draft.inside? char)

/-- Read one character of a string. -/
def stringStep? (scanner : Scanner) (draft : StringDraft) (char : Char) : Option Scanner :=
  match draft.phase with
  | .start =>
      if char = '\n' then scanner.string? (some { draft with phase := .inside })
      else scanner.inString? draft char
  | .inside => scanner.inString? draft char
  | .quotes count =>
      if char = draft.quote.char then
        -- Up to two quotes in front of the last three belong to the string.
        if count = 4 then some (scanner.found (draft.pushQuotes 2).lexeme)
        else scanner.string? (some { draft with phase := .quotes (count + 1) })
      else if count < 3 then scanner.inString? (draft.pushQuotes count) char
      else (scanner.found (draft.pushQuotes (count - 3)).lexeme).begin? char
  | .escape => scanner.string? (draft.escaped? char)
  | .code missing reversed =>
      if missing = 1 then
        scanner.string? ((coded? (char :: reversed).reverse).map draft.push)
      else
        scanner.string? (some { draft with phase := .code (missing - 1) (char :: reversed) })
  | .lineEnd =>
      if char = '\n' then scanner.string? (some { draft with phase := .skipping })
      else if isBlank char then some scanner
      else none
  | .skipping =>
      if char = '\n' || isBlank char then some scanner else scanner.inString? draft char

/-- Read one character. -/
def step? (scanner : Scanner) (char : Char) : Option Scanner :=
  match scanner.reading with
  | .nothing => scanner.begin? char
  | .blanks isSpace =>
      if isBlank char then some { scanner with reading := .blanks false }
      else (scanner.found (.blanks isSpace)).begin? char
  | .bare reversed =>
      if isBareChar char then some { scanner with reading := .bare (char :: reversed) }
      else (scanner.found (.bare reversed.reverse)).begin? char
  | .comment =>
      if isCommentChar char then some scanner
      else if char = '\n' then some (scanner.found .newline)
      else none
  | .opening quote isTwo =>
      match char == quote.char, isTwo with
      | true, false => some { scanner with reading := .opening quote true }
      | true, true => scanner.string? (some ⟨quote, true, [], .start⟩)
      | false, true => (scanner.found (.quoted "" false)).begin? char
      | false, false => scanner.inString? ⟨quote, false, [], .inside⟩ char
  | .string draft => scanner.stringStep? draft char

/-- The words that were found, if no word is incomplete. -/
def finish? (scanner : Scanner) : Option (List Lexeme) :=
  match scanner.reading with
  | .nothing => some scanner.reversed.reverse
  | _ => none

end Scanner

/-- A text in which a carriage return and a line feed are a line feed. -/
def foldLines : List Char -> List Char
  | '\r' :: '\n' :: rest => '\n' :: foldLines rest
  | char :: rest => char :: foldLines rest
  | [] => []

/-- The words of a text, up to the end of the last line. A byte order mark in front means
nothing. -/
def lexemes? (text : List Char) : Option (List Lexeme) :=
  let text := match foldLines text with
    | '\uFEFF' :: rest => rest
    | text => text
  ((text ++ ['\n']).foldlM Scanner.step? Scanner.start).bind Scanner.finish?

end Toml
end ShadowTaint
