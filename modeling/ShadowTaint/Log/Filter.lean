import ShadowTaint.Number.Double
import ShadowTaint.Number.Whole
import ShadowTaint.Pattern.Grammar
import ShadowTaint.Stop
import ShadowTaint.Text.Blank
import ShadowTaint.Text.Utf8

/-!
# Log filters

A log filter is a list of directives, separated by commas. A directive names a
level, or a target, or a span with fields in brackets and braces; a target or a
span may be followed by an equals sign and a level. A field is a name, with an
equals sign and a value where the value matters. Only whether a filter is valid is
of interest here.

The characters of a directive are read without the blanks at its ends, and yet its
parts are cut out of the whole directive at the positions that were found. So parts
of a directive that starts with a blank are those some bytes earlier, and a cut may
fall within a character, which is a fault.
-/

namespace ShadowTaint
namespace LogFilter

/-- What has been read of a directive, with the position where its last part starts. -/
inductive Progress
  | start
  /-- A level, or a target before its level or span. -/
  | levelOrTarget
  /-- The name of a span. -/
  | span (first : Nat)
  /-- The field of a span. -/
  | field (first : Nat)
  /-- All fields of a span. -/
  | fields
  /-- A target, or a span with its bracket. -/
  | target
  | level (first : Nat)
  deriving DecidableEq

/-! ## Parts -/

/-- The names of the levels. -/
def levelNames : List String := ["error", "warn", "info", "debug", "trace", "off"]

/-- A text is a level: a name in any case, or a number up to five. -/
def isLevel (text : List Char) : Bool :=
  levelNames.contains (String.ofList (text.map Char.toLower)) ||
    (Whole.unsigned? text).any (· ≤ 5)

/-- A text is the value of a field: a number or a pattern. Truth values are patterns. -/
def isValue (text : List Char) : Bool := (Double.ofText? text).isSome || Pattern.isUsable text

/-- A text is a field. Its value ends at a second equals sign. -/
def isField (text : List Char) : Bool :=
  match text.dropWhile (· != '=') with
  | [] => !text.isEmpty
  | _ :: value => isValue (value.takeWhile (· != '='))

/-- A character may begin a level or a target. -/
def mayBegin (char : Char) : Bool :=
  char == '-' || char == ':' || char == '_' || Letter.isAlphanumeric char

/-! ## Directives -/

/-- A directive cannot be understood. -/
def invalid (directive : List Char) : Stop :=
  .failure (.config ("invalid log filter " ++ String.ofList directive))

/-- Cut a part out of a directive. -/
def cut (directive : List Char) (first past : Nat) : Except Stop (List Char) :=
  (Utf8.slice directive first past).mapError .fault

/-- Read the character at a position of a directive. -/
def step (directive : List Char) (progress : Progress) (position : Nat) (char : Char) :
    Except Stop Progress :=
  match progress with
  | .start =>
      if char = '[' then .ok (.span (position + 1))
      else if mayBegin char then .ok .levelOrTarget
      else .error (invalid directive)
  | .levelOrTarget =>
      if char = '=' then (cut directive 0 position).map fun _ => .level (position + 1)
      else if char = '[' then (cut directive 0 position).map fun _ => .span (position + 1)
      else .ok .levelOrTarget
  | .span first =>
      if char = ']' then (cut directive first position).map fun _ => .target
      else if char = '\x7b' then
        (cut directive first position).map fun _ => .field (position + 1)
      else .ok (.span first)
  | .field first =>
      if char = '\x7d' then do
        let text ← cut directive first position
        if isField text then .ok .fields else .error (invalid directive)
      else .ok (.field first)
  | .fields => if char = ']' then .ok .target else .error (invalid directive)
  | .target => if char = '=' then .ok (.level (position + 1)) else .error (invalid directive)
  | .level first => .ok (.level first)

/-- Read the characters of a directive from a position on. -/
def steps (directive : List Char) (progress : Progress) (position : Nat) :
    List Char -> Except Stop Progress
  | [] => .ok progress
  | char :: rest => do
      let next ← step directive progress position char
      steps directive next (position + char.utf8Size) rest

/-- Check what has been read of a directive at its end. -/
def finish (directive : List Char) (progress : Progress) : Except Stop Unit :=
  match progress with
  | .levelOrTarget | .target => .ok ()
  | .level first => do
      let text ← (Utf8.suffixFrom directive first).mapError .fault
      if text.isEmpty || isLevel text then .ok () else .error (invalid directive)
  | _ => .error (invalid directive)

/-- Check a directive. -/
def checkDirective (directive : List Char) : Except Stop Unit := do
  let progress ← steps directive .start 0 (Blank.trim directive)
  finish directive progress

/-! ## Filters -/

/-- The parts of a text between commas, onto the current part in reverse. -/
def partsOnto (current : List Char) : List Char -> List (List Char)
  | [] => [current.reverse]
  | ',' :: rest => current.reverse :: partsOnto [] rest
  | char :: rest => partsOnto (char :: current) rest

/-- The directives of a filter. Empty ones mean nothing. -/
def directives (filter : String) : List (List Char) :=
  (partsOnto [] filter.toList).filter fun part => !part.isEmpty

/-- Check the directives of a filter in order. -/
def check (filter : String) : Except Stop Unit := (directives filter).forM checkDirective

end LogFilter
end ShadowTaint
