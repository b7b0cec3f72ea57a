import ShadowTaint.Number.Decimal

/-!
# JSON values

A value as it is written in a JSON text. Numbers keep the distinction between
an integer of 64 bits and any other numeral, because fields of data files accept
only such integers. Members of an object keep their order, and a name may occur
more than once.

Some texts follow the grammar and yet denote nothing that a program can hold: a
numeral beyond the range of a double, or a string literal that escapes half of a
surrogate pair, be it a value or the name of a member. `Json.isRepresentable` tells them apart.
-/

namespace ShadowTaint

/-- A JSON value. -/
inductive Json
  | null
  | boolean (value : Bool)
  | integer (value : Int)
  /-- A numeral that is no integer of 64 bits. -/
  | real (value : Decimal)
  | string (text : String)
  /-- A string literal that escapes half of a surrogate pair, or an object in which the
  name of a member does. -/
  | unpaired
  | array (items : List Json)
  | object (members : List (String × Json))

namespace Json

/-- The object of members, of which those whose name denotes no text have none. -/
def ofMembers (members : List (Option String × Json)) : Json :=
  match members.mapM fun member => member.1.map fun name => (name, member.2) with
  | some named => object named
  | none => unpaired

mutual

/-- Every numeral and string of a value denotes something. -/
def isRepresentable : Json -> Bool
  | null | boolean _ | integer _ | string _ => true
  | real value => value.isFinite
  | unpaired => false
  | array items => areRepresentable items
  | object members => membersAreRepresentable members

/-- Every value of a list is representable. -/
def areRepresentable : List Json -> Bool
  | [] => true
  | item :: rest => isRepresentable item && areRepresentable rest

/-- The value of every member of an object is representable. -/
def membersAreRepresentable : List (String × Json) -> Bool
  | [] => true
  | (_, value) :: rest => isRepresentable value && membersAreRepresentable rest

end

end Json
end ShadowTaint
