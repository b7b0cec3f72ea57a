import ShadowTaint.Config.Analysis
import ShadowTaint.Config.Log
import ShadowTaint.Config.Section

/-!
# The sections of the program

There are two sections: the settings of the analysis, and those of the log.
Names that a section does not know are ignored. A number that is too large for
its setting keeps its low bits.
-/

namespace ShadowTaint

namespace AnalysisConfig

/-- Settings as a table. -/
def toSetting (config : AnalysisConfig) : Setting :=
  .table [
    ("shadow_base", .integer config.shadowBase.toNat),
    ("shadow_size", .integer config.shadowSize.toNat),
    ("default_label", .integer config.defaultLabel.toNat),
    ("clear_exclusive_status", .boolean config.clearExclusiveStatus),
    ("stack_auto_clear", .boolean config.stackAutoClear),
    ("address_dependency", .boolean config.addressDependency),
    ("writeback_exclusion", .text config.exclusion.name)]

/-- The settings of a table. -/
def ofSetting? : Setting -> Option AnalysisConfig
  | .table entries => do
      let table := Setting.table entries
      let shadowBase ← table.optional "shadow_base" standard.shadowBase
        fun value => value.unsigned?.map UInt32.ofNat
      let shadowSize ← table.optional "shadow_size" standard.shadowSize
        fun value => value.unsigned?.map UInt64.ofNat
      let defaultLabel ← table.optional "default_label" standard.defaultLabel
        fun value => value.unsigned?.map UInt8.ofNat
      let clearExclusiveStatus ←
        table.optional "clear_exclusive_status" standard.clearExclusiveStatus Setting.boolean?
      let stackAutoClear ←
        table.optional "stack_auto_clear" standard.stackAutoClear Setting.boolean?
      let addressDependency ←
        table.optional "address_dependency" standard.addressDependency Setting.boolean?
      let exclusion ← table.optional "writeback_exclusion" standard.exclusion
        fun value => value.alternative?.bind Exclusion.ofName?
      return ⟨shadowBase, shadowSize, defaultLabel, clearExclusiveStatus, stackAutoClear,
        addressDependency, exclusion⟩
  | _ => none

/-- The section of the analysis. -/
def configSection : Section AnalysisConfig := ⟨"taint", standard, toSetting, ofSetting?⟩

end AnalysisConfig

namespace LogConfig

/-- A text that may be absent. -/
def ofText? : Option String -> Setting
  | some text => .text text
  | none => .absent

/-- Settings as a table. -/
def toSetting (config : LogConfig) : Setting :=
  .table [
    ("console_level", .text config.consoleLevel),
    ("file_level", .text config.fileLevel),
    ("file", ofText? config.file),
    ("taint_level", ofText? config.taintLevel)]

/-- The settings of a table. -/
def ofSetting? : Setting -> Option LogConfig
  | .table entries => do
      let table := Setting.table entries
      let consoleLevel ← table.optional "console_level" standard.consoleLevel Setting.text?
      let fileLevel ← table.optional "file_level" standard.fileLevel Setting.text?
      let file ← table.optional "file" none (Setting.nullable Setting.text?)
      let taintLevel ← table.optional "taint_level" none (Setting.nullable Setting.text?)
      return ⟨consoleLevel, fileLevel, file, taintLevel⟩
  | _ => none

/-- The section of the log. -/
def configSection : Section LogConfig := ⟨"log", standard, toSetting, ofSetting?⟩

end LogConfig
end ShadowTaint
