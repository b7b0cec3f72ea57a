import ShadowTaint.Config.Load

/-!
# Fields of sections

Both sections are read from a table field by field: each field is decoded from what there
is under its name, and has its default if there is nothing. The table of the defaults of a
section has each of them under the name of its field.
-/

namespace ShadowTaint

/-- A field of a configuration: the name of its setting, and how it is decoded. -/
structure ConfigField (Config : Type) where
  Value : Type
  name : String
  decode? : Setting -> Option Value
  get : Config -> Value

/-- Decode a setting, or take the field of a default if there is none. -/
def ConfigField.read? {Config : Type} (field : ConfigField Config) (default : Config) :
    Option Setting -> Option field.Value
  | some value => field.decode? value
  | none => some (field.get default)

/-- A section is read from a table field by field, and the table of its defaults has each
default under the name of its field. -/
structure Section.IsFieldwise {Config : Type} (wanted : Section Config)
    (fields : List (ConfigField Config)) : Prop where
  read : ∀ entries config, wanted.ofSetting? (.table entries) = some config ↔
    ∀ field ∈ fields,
      field.read? wanted.standard (entries.lookup field.name) = some (field.get config)
  standard : ∃ entries, wanted.toSetting wanted.standard = .table entries ∧
    ∀ field ∈ fields, ∃ value, entries.lookup field.name = some value ∧
      field.decode? value = some (field.get wanted.standard)

namespace AnalysisConfig

/-- The fields of the section of the analysis. -/
def fields : List (ConfigField AnalysisConfig) := [
  ⟨UInt32, "shadow_base", fun value => value.unsigned?.map UInt32.ofNat, shadowBase⟩,
  ⟨UInt64, "shadow_size", fun value => value.unsigned?.map UInt64.ofNat, shadowSize⟩,
  ⟨UInt8, "default_label", fun value => value.unsigned?.map UInt8.ofNat, defaultLabel⟩,
  ⟨Bool, "clear_exclusive_status", Setting.boolean?, clearExclusiveStatus⟩,
  ⟨Bool, "stack_auto_clear", Setting.boolean?, stackAutoClear⟩,
  ⟨Bool, "address_dependency", Setting.boolean?, addressDependency⟩,
  ⟨Exclusion, "writeback_exclusion", fun value => value.alternative?.bind Exclusion.ofName?,
    exclusion⟩]

theorem isFieldwise : configSection.IsFieldwise fields where
  read entries config := by
    simp only [configSection, ofSetting?, Option.bind_eq_bind, Option.bind_eq_some_iff, fields,
      List.forall_mem_cons, ConfigField.read?]
    constructor
    · rintro ⟨_, base, _, size, _, label, _, clear, _, stack, _, address, _, exclusion, same⟩
      cases same
      exact ⟨base, size, label, clear, stack, address, exclusion, nofun⟩
    · rintro ⟨base, size, label, clear, stack, address, exclusion, -⟩
      exact ⟨_, base, _, size, _, label, _, clear, _, stack, _, address, _, exclusion, rfl⟩
  standard := by
    refine ⟨_, rfl, ?_⟩
    simp only [fields, List.forall_mem_cons]
    exact ⟨⟨_, rfl, by decide⟩, ⟨_, rfl, by decide⟩, ⟨_, rfl, by decide⟩, ⟨_, rfl, rfl⟩,
      ⟨_, rfl, rfl⟩, ⟨_, rfl, rfl⟩, ⟨_, rfl, rfl⟩, nofun⟩

end AnalysisConfig

namespace LogConfig

/-- The fields of the section of the log. -/
def fields : List (ConfigField LogConfig) := [
  ⟨String, "console_level", Setting.text?, consoleLevel⟩,
  ⟨String, "file_level", Setting.text?, fileLevel⟩,
  ⟨Option String, "file", Setting.nullable Setting.text?, file⟩,
  ⟨Option String, "taint_level", Setting.nullable Setting.text?, taintLevel⟩]

theorem isFieldwise : configSection.IsFieldwise fields where
  read entries config := by
    simp only [configSection, ofSetting?, Option.bind_eq_bind, Option.bind_eq_some_iff, fields,
      List.forall_mem_cons, ConfigField.read?]
    constructor
    · rintro ⟨_, console, _, fileLevel, _, file, _, taint, same⟩
      cases same
      exact ⟨console, fileLevel, file, taint, nofun⟩
    · rintro ⟨console, fileLevel, file, taint, -⟩
      exact ⟨_, console, _, fileLevel, _, file, _, taint, rfl⟩
  standard := by
    refine ⟨_, rfl, ?_⟩
    simp only [fields, List.forall_mem_cons]
    exact ⟨⟨_, rfl, rfl⟩, ⟨_, rfl, rfl⟩, ⟨_, rfl, rfl⟩, ⟨_, rfl, rfl⟩, nofun⟩

end LogConfig

end ShadowTaint
