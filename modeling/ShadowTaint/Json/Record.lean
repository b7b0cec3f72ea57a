import ShadowTaint.Json.Basic

/-!
# Reading data out of JSON values

Numbers have to be integers within the range of their type. A record is an
object whose known members occur at most once and whose unknown members are
ignored, or an array of the fields in their declared order, from which fields
may be missing at the end.

The name of an alternative without data is a string, or an object with that one
member and null as its value. Loose reading, which applies to data that was
held before its form was known, lets an empty object stand for that null, and
lets the data of an alternative be an array of its fields.
-/

namespace ShadowTaint
namespace Json

/-- A natural number below a bound. -/
def below? (bound : Nat) : Json -> Option Nat
  | integer value => if 0 ≤ value ∧ value < bound then some value.toNat else none
  | _ => none

/-- An unsigned number of eight bits. -/
def uint8? (value : Json) : Option UInt8 := (below? UInt8.size value).map UInt8.ofNat

/-- An unsigned number of sixteen bits. -/
def bits16? (value : Json) : Option (BitVec 16) := (below? UInt16.size value).map (BitVec.ofNat 16)

/-- An unsigned number of thirty-two bits. -/
def uint32? (value : Json) : Option UInt32 := (below? UInt32.size value).map UInt32.ofNat

/-- An unsigned number of sixty-four bits. -/
def uint64? (value : Json) : Option UInt64 := (below? UInt64.size value).map UInt64.ofNat

/-- A signed number of thirty-two bits. -/
def int32? : Json -> Option Int32
  | integer value =>
      if Int32.minValue.toInt ≤ value ∧ value ≤ Int32.maxValue.toInt then some (Int32.ofInt value) else none
  | _ => none

/-- A signed number of sixty-four bits. -/
def int64? : Json -> Option Int64
  | integer value =>
      if Int64.minValue.toInt ≤ value ∧ value ≤ Int64.maxValue.toInt then some (Int64.ofInt value) else none
  | _ => none

/-- A truth value. -/
def boolean? : Json -> Option Bool
  | boolean value => some value
  | _ => none

/-- A text. -/
def string? : Json -> Option String
  | string text => some text
  | _ => none

/-- The items of an array. -/
def items? : Json -> Option (List Json)
  | array items => some items
  | _ => none

/-- The members of an object. -/
def members? : Json -> Option (List (String × Json))
  | object members => some members
  | _ => none

/-- A value, or null for none. -/
def nullable (decode : Json -> Option Value) : Json -> Option (Option Value)
  | null => some none
  | value => (decode value).map some

/-- A value, or null for none. -/
def ofOption (encode : Value -> Json) : Option Value -> Json
  | some value => encode value
  | none => null

/-- An array of values. -/
def listOf (decode : Json -> Option Value) (value : Json) : Option (List Value) := do
  let items ← value.items?
  items.mapM decode

/-- A value that says nothing beside the name it belongs to. -/
def isUnit (loose : Bool) : Json -> Bool
  | null => true
  | object [] => loose
  | _ => false

/-- The name of an alternative without data. -/
def name? (loose : Bool) : Json -> Option String
  | string text => some text
  | object [(text, value)] => if value.isUnit loose then some text else none
  | _ => none

/-- An alternative without data, by its name. -/
def named? (loose : Bool) (ofName? : String -> Option Value) (value : Json) : Option Value :=
  (value.name? loose).bind ofName?

/-- The fields that a record holds, by name. -/
structure Record where
  fields : List (String × Json)

namespace Record

/-- The record of the known members of an object. -/
def ofMembers? (names : List String) (members : List (String × Json)) : Option Record :=
  let known := members.filter fun member => names.contains member.1
  if (known.map Prod.fst).Nodup then some ⟨known⟩ else none

/-- The record of fields in declared order. -/
def ofItems? (names : List String) (items : List Json) : Option Record :=
  if items.length ≤ names.length then some ⟨names.zip items⟩ else none

/-- A field that is there. -/
def get? (record : Record) (name : String) : Option Json := record.fields.lookup name

/-- A field that has to be there. -/
def required (record : Record) (name : String) (decode : Json -> Option Value) :
    Option Value :=
  (record.get? name).bind decode

/-- A field that has a default. -/
def optional (record : Record) (name : String) (default : Value)
    (decode : Json -> Option Value) : Option Value :=
  match record.get? name with
  | some value => decode value
  | none => some default

@[simp] theorem optional_of_get?_none {record : Record} {name : String} {default : Value}
    {decode : Json -> Option Value} (missing : record.get? name = none) :
    record.optional name default decode = some default := by
  simp [optional, missing]

end Record

/-- A record with the given field names, as an object or as an array. -/
def record? (names : List String) : Json -> Option Record
  | object members => Record.ofMembers? names members
  | array items => Record.ofItems? names items
  | _ => none

/-- The data of an alternative with the given field names. -/
def alternative? (loose : Bool) (names : List String) (value : Json) : Option Record :=
  match value with
  | array _ => if loose then value.record? names else none
  | _ => value.record? names

end Json
end ShadowTaint
