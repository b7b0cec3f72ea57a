import ShadowTaint.Config.Toml.Lexeme

/-!
# The statements of settings files

A settings file is a list of statements: a statement opens a table, adds an item to a
list of tables, or gives a value to a key. A parser takes one word at a time. It remembers
what is open, and what may come next.

A key is a path of names with points between them. A value is a string, characters without
quotes, a list in brackets, or a table in braces. Lists may go on over several lines, and
everything else has to end on its line, strings with three quotes apart.
-/

namespace ShadowTaint
namespace Toml

/-- A value as it is written. -/
inductive Value
  | text (content : String)
  /-- A truth value, a number or a moment. -/
  | word (text : List Char)
  | list (items : List Value)
  | table (entries : List (List String × Value))

/-- A statement of a settings file. -/
inductive Statement
  /-- The keys below belong to a table. -/
  | table (path : List String)
  /-- The keys below belong to a new item of a list of tables. -/
  | item (path : List String)
  /-- A key has a value. -/
  | entry (key : List String) (value : Value)

/-- What a key is read for. -/
inductive KeyRole
  | entry | table | item
  deriving DecidableEq

/-- What is open, with what it holds so far in reverse. -/
inductive Container
  | list (reversed : List Value)
  | table (reversed : List (List String × Value))
  /-- A key, whose value is to come. It belongs to the table below, or to the file. -/
  | entry (key : List String)

/-- What may come next. -/
inductive Expected
  /-- A statement. -/
  | line
  /-- The key of a table that is opened, or a second bracket. -/
  | header
  /-- A name of a key, behind other names in reverse. -/
  | name (role : KeyRole) (reversed : List String)
  /-- A point behind names of a key in reverse, or the end of the key. -/
  | point (role : KeyRole) (reversed : List String)
  /-- The second bracket behind the path of an item. -/
  | bracket (path : List String)
  /-- The first key of a table in braces, or its end. -/
  | nameOrClose
  /-- A value, or the end of the innermost list. -/
  | value
  /-- What ends a value. -/
  | separator
  /-- More characters of a value, behind those in reverse. There is at most one space. -/
  | word (reversed : List Char) (hasSpace : Bool)
  /-- What follows characters of a value and a space. -/
  | wordOrSeparator (reversed : List Char)

/-- A parser, with the statements that it has read in reverse. -/
structure Parser where
  reversed : List Statement
  containers : List Container
  expected : Expected

namespace Parser

/-- A parser at the beginning of a file. -/
def start : Parser := ⟨[], [], .line⟩

/-- Something is expected next. -/
def await (parser : Parser) (expected : Expected) : Parser := { parser with expected := expected }

/-- A statement is complete, up to the end of its line. -/
def state (parser : Parser) (statement : Statement) : Parser :=
  ⟨statement :: parser.reversed, [], .separator⟩

/-- A value is complete: it goes into the innermost container. -/
def supply? (parser : Parser) (value : Value) : Option Parser :=
  match parser.containers with
  | .list reversed :: rest =>
      some { parser with containers := .list (value :: reversed) :: rest, expected := .separator }
  | .entry key :: .table reversed :: rest =>
      some { parser with
        containers := .table ((key, value) :: reversed) :: rest
        expected := .separator }
  | [.entry key] => some (parser.state (.entry key value))
  | _ => none

/-- Something begins, and something is expected in it. -/
def enter (parser : Parser) (container : Container) (expected : Expected) : Parser :=
  { parser with containers := container :: parser.containers, expected := expected }

/-- The innermost container ends, and is a value. -/
def close? (parser : Parser) (value : Value) (rest : List Container) : Option Parser :=
  { parser with containers := rest }.supply? value

/-- A word is a name of a key. -/
def name? (parser : Parser) (role : KeyRole) (reversed : List String) :
    Lexeme -> Option Parser
  | .bare text => some (parser.await (.point role (String.ofList text :: reversed)))
  | .quoted text false => some (parser.await (.point role (text :: reversed)))
  | _ => none

/-- The characters of a value that a word is. -/
def part? : Lexeme -> Option (List Char)
  | .bare text => some text
  | .period => some ['.']
  | .colon => some [':']
  | .plus => some ['+']
  | _ => none

/-- Take a word where a statement or a part of one begins. -/
def lineStep? (parser : Parser) (lexeme : Lexeme) : Option Parser :=
  match lexeme with
  | .newline | .blanks _ => some parser
  | .openBracket => some (parser.await .header)
  | _ => parser.name? .entry [] lexeme

/-- Take a word behind the bracket of a header. -/
def headerStep? (parser : Parser) (lexeme : Lexeme) : Option Parser :=
  match lexeme with
  | .blanks _ => some (parser.await (.name .table []))
  | .openBracket => some (parser.await (.name .item []))
  | _ => parser.name? .table [] lexeme

/-- Take a word behind a name of a key. -/
def pointStep? (parser : Parser) (role : KeyRole) (reversed : List String) (lexeme : Lexeme) :
    Option Parser :=
  match lexeme, role with
  | .blanks _, _ => some parser
  | .period, _ => some (parser.await (.name role reversed))
  | .equals, .entry => some (parser.enter (.entry reversed.reverse) .value)
  | .closeBracket, .table => some (parser.state (.table reversed.reverse))
  | .closeBracket, .item => some (parser.await (.bracket reversed.reverse))
  | _, _ => none

/-- Take a word where a value may begin. -/
def valueStep? (parser : Parser) (lexeme : Lexeme) : Option Parser :=
  match lexeme, parser.containers with
  | .blanks _, _ | .newline, .list _ :: _ => some parser
  | .closeBracket, .list reversed :: rest => parser.close? (.list reversed.reverse) rest
  | .openBracket, _ => some (parser.enter (.list []) .value)
  | .openBrace, _ => some (parser.enter (.table []) .nameOrClose)
  | .quoted text _, _ => parser.supply? (.text text)
  | _, _ => (part? lexeme).map fun part => parser.await (.word part.reverse false)

/-- Take a word behind a value or a header. -/
def separatorStep? (parser : Parser) (lexeme : Lexeme) : Option Parser :=
  match lexeme, parser.containers with
  | .blanks _, _ | .newline, .list _ :: _ => some parser
  | .newline, [] => some (parser.await .line)
  | .comma, .list _ :: _ => some (parser.await .value)
  | .comma, .table _ :: _ => some (parser.await (.name .entry []))
  | .closeBracket, .list reversed :: rest => parser.close? (.list reversed.reverse) rest
  | .closeBrace, .table reversed :: rest => parser.close? (.table reversed.reverse) rest
  | _, _ => none

/-- Take a word that belongs to no characters before it. -/
def plainStep? (parser : Parser) (lexeme : Lexeme) : Option Parser :=
  match parser.expected with
  | .line => parser.lineStep? lexeme
  | .header => parser.headerStep? lexeme
  | .name role reversed =>
      match lexeme with
      | .blanks _ => some parser
      | _ => parser.name? role reversed lexeme
  | .point role reversed => parser.pointStep? role reversed lexeme
  | .bracket path =>
      match lexeme with
      | .closeBracket => some (parser.state (.item path))
      | _ => none
  | .nameOrClose =>
      match lexeme, parser.containers with
      | .blanks _, _ => some parser
      | .closeBrace, .table _ :: rest => parser.close? (.table []) rest
      | _, _ => parser.name? .entry [] lexeme
  | .value => parser.valueStep? lexeme
  | .separator => parser.separatorStep? lexeme
  | .word _ _ | .wordOrSeparator _ => none

/-- Take one word. -/
def step? (parser : Parser) (lexeme : Lexeme) : Option Parser :=
  match parser.expected with
  | .word reversed hasSpace =>
      match part? lexeme, lexeme, hasSpace with
      | some part, _, _ => some (parser.await (.word (part.reverse ++ reversed) hasSpace))
      | none, .blanks true, false => some (parser.await (.wordOrSeparator reversed))
      | none, _, _ =>
          (parser.supply? (.word reversed.reverse)).bind fun parser => parser.plainStep? lexeme
  | .wordOrSeparator reversed =>
      match lexeme with
      | .bare text => some (parser.await (.word (text.reverse ++ ' ' :: reversed) true))
      | _ => (parser.supply? (.word reversed.reverse)).bind fun parser => parser.plainStep? lexeme
  | _ => parser.plainStep? lexeme

/-- The statements that were read, if none is incomplete. -/
def finish? (parser : Parser) : Option (List Statement) :=
  match parser.expected with
  | .line => some parser.reversed.reverse
  | _ => none

end Parser

/-- The statements of a text. -/
def statements? (text : List Char) : Option (List Statement) :=
  (lexemes? text).bind fun lexemes =>
    (lexemes.foldlM Parser.step? Parser.start).bind Parser.finish?

end Toml
end ShadowTaint
