import ShadowTaint.Config.Toml.Scalar
import ShadowTaint.Config.Toml.Syntax

/-!
# The settings of settings files

The statements of a settings file make a document grow. A name is given a value once, and a
table is opened once. A table that came into being on the way to another one can still be
opened, and any table that was not made by a key can be gone through on the way to another
one. A table that came into being within the key of a value can only grow by such keys, and a
table in braces not at all. Of a list of tables only the last item grows.
-/

namespace ShadowTaint
namespace Toml

/-- How a table came into being. -/
inductive Origin
  | opened
  /-- On the way to a table that was opened. -/
  | passed
  /-- Within the key of a value. -/
  | dotted
  deriving DecidableEq

/-- A setting of a document that may still grow. -/
inductive Growth
  /-- It does not grow any more. -/
  | value (setting : Setting)
  | table (origin : Origin) (entries : List (String × Growth))
  /-- A list of tables: those that are finished, and the entries of the last. -/
  | tables (finished : List Setting) (entries : List (String × Growth))

namespace Growth

mutual

/-- The setting that has grown up to now. -/
def setting : Growth -> Setting
  | value setting => setting
  | table _ entries => .table (settings entries)
  | tables finished entries => .list (finished ++ [.table (settings entries)])

/-- The settings that have grown up to now. -/
def settings : List (String × Growth) -> List (String × Setting)
  | [] => []
  | (name, growth) :: rest => (name, setting growth) :: settings rest

end

/-- Give a setting to a key that has none. -/
def insert? (setting : Setting) :
    List String -> List (String × Growth) -> Option (List (String × Growth))
  | [], _ => none
  | [name], entries =>
      match entries.lookup name with
      | some _ => none
      | none => some (Setting.putEntry name (value setting) entries)
  | name :: rest, entries =>
      match (entries.lookup name).getD (table .dotted []) with
      | table .dotted inner =>
          (insert? setting rest inner).map fun inner =>
            Setting.putEntry name (table .dotted inner) entries
      | _ => none

/-- Open a table. -/
def openTable? (name : String) (entries : List (String × Growth)) :
    Option (List (String × Growth)) :=
  match (entries.lookup name).getD (table .passed []) with
  | table .passed inner => some (Setting.putEntry name (table .opened inner) entries)
  | _ => none

/-- Add an item to a list of tables, or begin one. -/
def addItem? (name : String) (entries : List (String × Growth)) :
    Option (List (String × Growth)) :=
  match entries.lookup name with
  | none => some (Setting.putEntry name (tables [] []) entries)
  | some (tables finished inner) =>
      some (Setting.putEntry name (tables (finished ++ [.table (settings inner)]) []) entries)
  | some _ => none

/-- Change the entries of the table at the end of a path, and make the tables on the way. -/
def changeAt? (change : List (String × Growth) -> Option (List (String × Growth))) :
    List String -> List (String × Growth) -> Option (List (String × Growth))
  | [], entries => change entries
  | name :: rest, entries =>
      match (entries.lookup name).getD (table .passed []) with
      | value _ | table .dotted _ => none
      | table origin inner =>
          (changeAt? change rest inner).map fun inner =>
            Setting.putEntry name (table origin inner) entries
      | tables finished inner =>
          (changeAt? change rest inner).map fun inner =>
            Setting.putEntry name (tables finished inner) entries

end Growth

/-! ## Values -/

namespace Value

mutual

/-- The setting that a value denotes. -/
def setting? : Value -> Option Setting
  | .text content => some (.text content)
  | .word characters => scalar? characters
  | .list items => (settings? items).map .list
  | .table entries => (growth? [] entries).map fun grown => .table (Growth.settings grown)

/-- The settings that values denote. -/
def settings? : List Value -> Option (List Setting)
  | [] => some []
  | value :: rest =>
      match setting? value, settings? rest with
      | some setting, some settings => some (setting :: settings)
      | _, _ => none

/-- What entries make of others before them. -/
def growth? (grown : List (String × Growth)) :
    List (List String × Value) -> Option (List (String × Growth))
  | [] => some grown
  | (key, value) :: rest => do
      let setting ← setting? value
      let grown ← Growth.insert? setting key grown
      growth? grown rest

end

end Value

/-! ## Documents -/

/-- A file that has been read in part. -/
structure Document where
  entries : List (String × Growth)
  /-- The path of the table to which keys belong. -/
  current : List String

namespace Document

/-- Nothing has been read. -/
def empty : Document := ⟨[], []⟩

/-- Change what is under the last name of a path, to which keys belong from here on. -/
def head? (document : Document)
    (change : String -> List (String × Growth) -> Option (List (String × Growth)))
    (path : List String) : Option Document :=
  match path.getLast? with
  | some name =>
      (Growth.changeAt? (change name) path.dropLast document.entries).map fun entries =>
        ⟨entries, path⟩
  | none => none

/-- Take in one statement. -/
def add? (document : Document) : Statement -> Option Document
  | .table path => document.head? Growth.openTable? path
  | .item path => document.head? Growth.addItem? path
  | .entry key value => do
      let setting ← value.setting?
      let entries ← Growth.changeAt? (Growth.insert? setting key) document.current document.entries
      return { document with entries := entries }

/-- Take in statements, one after the other. -/
def addAll? (document : Document) (statements : List Statement) : Option Document :=
  statements.foldlM add? document

/-- The settings that have been read. -/
def setting (document : Document) : Setting := .table (Growth.settings document.entries)

end Document

/-- The settings that statements make. -/
def build? (statements : List Statement) : Option Setting :=
  (Document.empty.addAll? statements).map Document.setting

/-- The settings of a file. -/
def read? (text : List Char) : Option Setting := (statements? text).bind build?

end Toml
end ShadowTaint
