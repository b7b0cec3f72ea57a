import ShadowTaint.Config.Setting
import ShadowTaint.Fault

/-!
# Paths of settings

A source of settings may give a value to a setting deep within others. Its key is
a path: a name, then further names behind points, and positions in brackets. A
negative position counts from the end of a list. A key that is no such path is a
name as a whole.

Settings on the way become tables and lists as the path demands. Going before the
start of a list is a fault.
-/

namespace ShadowTaint

/-- A step from a setting to one within it. -/
inductive PathStep
  | name (name : String)
  | position (index : Int)
  deriving DecidableEq

/-! ## Keys -/

namespace SettingKey

/-- The characters of a name in a path. -/
def isNameChar (char : Char) : Bool :=
  char.isAlphanum || char == ' ' || char == '_' || char == '-'

/-- The blanks around a position. -/
def isBlank (char : Char) : Bool := char == ' ' || char == '\t'

/-- What is read of a path right now, its characters in reverse. -/
inductive Progress
  | name (reversed : List Char)
  /-- What stands in brackets. -/
  | position (reversed : List Char)
  /-- A bracket was closed. -/
  | closed

/-- A path that has been read in part, its finished steps in reverse. -/
structure Draft where
  reversed : List PathStep
  progress : Progress

/-- The position that a text in brackets denotes, with blanks around it. It has no
plus sign. -/
def position? (text : List Char) : Option Int :=
  let digits := ((text.dropWhile isBlank).reverse.dropWhile isBlank).reverse
  if digits.head? = some '+' then none else Whole.word? digits

/-- The steps up to here in reverse, if a step ends here. -/
def Draft.finish? (draft : Draft) : Option (List PathStep) :=
  match draft.progress with
  | .name (char :: rest) =>
      some (.name (String.ofList (char :: rest).reverse) :: draft.reversed)
  | .closed => some draft.reversed
  | .name [] | .position _ => none

/-- A character that begins a step. -/
def begin? : Char -> Option Progress
  | '.' => some (.name [])
  | '[' => some (.position [])
  | _ => none

/-- A step ends, and a character begins the next. -/
def Draft.next? (draft : Draft) (char : Char) : Option Draft := do
  let steps ← draft.finish?
  let progress ← begin? char
  return ⟨steps, progress⟩

/-- Read one character. -/
def Draft.step? (draft : Draft) (char : Char) : Option Draft :=
  match draft.progress with
  | .name reversed =>
      if isNameChar char then some { draft with progress := .name (char :: reversed) }
      else draft.next? char
  | .position reversed =>
      if char = ']' then
        (position? reversed.reverse).map fun index =>
          ⟨.position index :: draft.reversed, .closed⟩
      else some { draft with progress := .position (char :: reversed) }
  | .closed => draft.next? char

/-- The path that a key is. -/
def path? (key : String) : Option (List PathStep) := do
  let draft ← key.toList.foldlM Draft.step? ⟨[], .name []⟩
  let reversed ← draft.finish?
  return reversed.reverse

/-- The steps to what a key denotes. -/
def steps (key : String) : List PathStep := (path? key).getD [.name key]

end SettingKey

/-! ## Assignments -/

namespace Setting

/-- How many bytes an item of a list takes. -/
def itemSize : Nat := 96

/-- How many items a list may have: its bytes are counted in a signed word of 64 bits. -/
def listLimit : Nat := 0x7FFFFFFFFFFFFFFF / itemSize

/-- The place that a position denotes in a list of a given length. -/
def place (length : Nat) (index : Int) : Except Fault Nat :=
  if 0 ≤ index then
    if index < listLimit then .ok index.toNat else .error .capacity
  else if index = Int64.minValue.toInt then .error (.overflow .negation)
  else if index.natAbs ≤ length then .ok (length - index.natAbs)
  else .error (.overflow .subtraction)

/-- A list with an item at a place, whatever was there before. A list that is too
short grows by absent settings. -/
def putItem (target : Setting) (place : Nat) (value : Setting) : Setting :=
  let grown := target.items ++ List.replicate (place + 1 - target.items.length) absent
  list (grown.set place value)

/-- Lay a setting over what is at the end of a path. -/
def assignPath (target value : Setting) : List PathStep -> Except Fault Setting
  | [] => .ok value
  | [.name name] => .ok (target.assign name value)
  | .name name :: rest => do
      let inner ← assignPath ((target.get? name).getD absent) value rest
      return target.put name inner
  | .position index :: rest => do
      let place ← place target.items.length index
      let inner ← assignPath (target.items[place]?.getD absent) value rest
      return target.putItem place inner

/-- Lay a setting over what a key denotes. -/
def assignKey (target : Setting) (key : String) (value : Setting) : Except Fault Setting :=
  target.assignPath value (SettingKey.steps key)

end Setting
end ShadowTaint
