import ShadowTaint.Config.Path

/-!
# Settings in the environment

A variable of the environment is a setting if its name starts with the name of
the program. The rest of the name, in lower case, is the key; two underscores
stand for a point. A value that reads as a truth value or as a
number is one, and any other value is a text.
-/

namespace ShadowTaint
namespace Environment

/-- What the names of settings start with. -/
def lead : List Char := "armtaint__".toList

/-- The lower case of a character. The Kelvin sign is the only character outside
ASCII whose lower case is in ASCII; others occur in no key, and are kept. -/
def lowerCase (char : Char) : Char := if char.toNat = 0x212A then 'k' else char.toLower

/-- Write a point for two underscores. -/
def separate : List Char -> List Char
  | '_' :: '_' :: rest => '.' :: separate rest
  | char :: rest => char :: separate rest
  | [] => []

/-- The key of a variable with the given name. -/
def key? (name : String) : Option String :=
  let lowered := name.toList.map lowerCase
  if lead.isPrefixOf lowered then
    some (String.ofList (separate (lowered.drop lead.length)))
  else none

/-- The setting that a value denotes. -/
def value (text : String) : Setting :=
  let lowered := text.map Char.toLower
  if lowered = "true" then .boolean true
  else if lowered = "false" then .boolean false
  else
    match Whole.word? text.toList with
    | some number => .integer number
    | none =>
        match Double.ofText? text.toList with
        | some number => .real number
        | none => .text text

/-- Lay one variable over settings, if it is a setting. -/
def assign (settings : Setting) (entry : String × String) : Except Fault Setting :=
  match key? entry.1 with
  | some key => settings.assignKey key (value entry.2)
  | none => .ok settings

/-- Lay variables over settings, in order. -/
def overlay (settings : Setting) (entries : List (String × String)) :
    Except Fault Setting :=
  entries.foldlM assign settings

end Environment
end ShadowTaint
