import ShadowTaint.Number.Double
import ShadowTaint.Number.Whole

/-!
# Settings

Settings come from several sources, one laid over the other. A setting is a
scalar, a list of settings, or a table of settings with names. Laying a table over
a setting goes name by name, and whatever is there already under a name that the
table lacks stays; anything else takes the place of what is there.

Sources do not agree on the types of scalars. A setting is converted to the type
that is wanted as far as it makes sense.
-/

namespace ShadowTaint

/-- A setting. -/
inductive Setting
  | absent
  | boolean (value : Bool)
  | integer (value : Int)
  | real (value : Double)
  | text (value : String)
  | list (items : List Setting)
  | table (entries : List (String × Setting))

namespace Setting

/-- The entries of a table; what is no table has none. -/
def entries : Setting -> List (String × Setting)
  | table entries => entries
  | _ => []

/-- The items of a list; what is no list has none. -/
def items : Setting -> List Setting
  | list items => items
  | _ => []

/-- The setting with a name. -/
def get? (setting : Setting) (name : String) : Option Setting := setting.entries.lookup name

/-- Put an entry in place of the one with its name, or behind the others. -/
def putEntry {Value : Type} (name : String) (value : Value) :
    List (String × Value) -> List (String × Value)
  | [] => [(name, value)]
  | (other, kept) :: rest =>
      if other = name then (name, value) :: rest
      else (other, kept) :: putEntry name value rest

/-- A table with a setting under a name, whatever was there before. -/
def put (target : Setting) (name : String) (value : Setting) : Setting :=
  table (putEntry name value target.entries)

mutual

/-- Lay a setting over what is under a name. -/
def assign (target : Setting) (name : String) : Setting -> Setting
  | table incoming =>
      target.put name (overlay ((target.get? name).getD (table [])) incoming)
  | other => target.put name other

/-- Lay entries over a setting. -/
def overlay (target : Setting) : List (String × Setting) -> Setting
  | [] => target
  | (name, value) :: rest => overlay (assign target name value) rest

end

/-! ## Conversions -/

/-- A text that says yes. -/
def saysYes (text : String) : Bool :=
  ["true", "on", "yes"].contains (text.map Char.toLower)

/-- A text that says no. -/
def saysNo (text : String) : Bool :=
  ["false", "off", "no"].contains (text.map Char.toLower)

/-- An unsigned number of 64 bits. A real number is rounded, and goes to the
nearest end if it is out of range. -/
def unsigned? : Setting -> Option Nat
  | boolean value => some value.toNat
  | integer value => if 0 ≤ value ∧ value < UInt64.size then some value.toNat else none
  | real value => some (value.toUnsigned (UInt64.size - 1))
  | text value =>
      if saysYes value then some 1
      else if saysNo value then some 0
      else (Whole.unsigned? value.toList).filter fun number => number < UInt64.size
  | absent | list _ | table _ => none

/-- A truth value. -/
def boolean? : Setting -> Option Bool
  | boolean value => some value
  | integer value => some (value != 0)
  | real value => some !value.isZero
  | text value =>
      if saysYes value || value == "1" then some true
      else if saysNo value || value == "0" then some false
      else none
  | absent | list _ | table _ => none

/-- A text. -/
def text? : Setting -> Option String
  | text value => some value
  | boolean value => some (toString value)
  | integer value => some (toString value)
  | real value => some value.text
  | absent | list _ | table _ => none

/-- The name of an alternative: a text, or the only name in a table. -/
def alternative? : Setting -> Option String
  | text value => some value
  | table [(name, _)] => some name
  | _ => none

/-- Settings under given names: a table, or a list in the order of the names. -/
def named? (names : List String) : Setting -> Option Setting
  | table entries => some (table entries)
  | list items => some (table (names.zip items))
  | _ => none

/-- A setting under a name, converted, or a default if there is none. -/
def optional (setting : Setting) (name : String) (default : Value)
    (convert : Setting -> Option Value) : Option Value :=
  match setting.get? name with
  | some value => convert value
  | none => some default

/-- A setting that may be absent. -/
def nullable (convert : Setting -> Option Value) : Setting -> Option (Option Value)
  | absent => some none
  | value => (convert value).map some

theorem lookup_putEntry {Value : Type} (name other : String) (value : Value)
    (entries : List (String × Value)) :
    (putEntry name value entries).lookup other =
      if other = name then some value else entries.lookup other := by
  have decided (first second : String) : (first == second) = decide (first = second) := rfl
  induction entries with
  | nil => by_cases same : other = name <;> simp [putEntry, List.lookup_cons, decided, same]
  | cons entry rest inductionHypothesis =>
      obtain ⟨first, kept⟩ := entry
      rw [putEntry]
      by_cases here : first = name
      · subst here
        by_cases same : other = first <;> simp [List.lookup_cons, decided, same]
      · rw [if_neg here]
        by_cases same : other = first
        · subst same
          simp [here]
        · simp [List.lookup_cons, decided, same, inductionHypothesis]

@[simp] theorem get?_put (target : Setting) (name other : String) (value : Setting) :
    (target.put name value).get? other =
      if other = name then some value else target.get? other :=
  lookup_putEntry name other value target.entries

end Setting
end ShadowTaint
