import ShadowTaint.Config.Analysis
import ShadowTaint.Config.Log
import ShadowTaint.Json.Printer
import ShadowTaint.Json.Reader
import ShadowTaint.Json.Record

/-!
# Settings in JSON

Settings are records of which every field has a default. In a text with the
settings of an analysis, a member that is not known need only follow the grammar.
-/

namespace ShadowTaint
namespace AnalysisConfig

/-- The names of the settings, in order. -/
def fieldNames : List String := [
  "shadow_base", "shadow_size", "default_label", "clear_exclusive_status",
  "stack_auto_clear", "address_dependency", "writeback_exclusion"]

/-- Settings with every field. -/
def toJson (config : AnalysisConfig) : Json :=
  .object [
    ("shadow_base", .integer config.shadowBase.toNat),
    ("shadow_size", .integer config.shadowSize.toNat),
    ("default_label", .integer config.defaultLabel.toNat),
    ("clear_exclusive_status", .boolean config.clearExclusiveStatus),
    ("stack_auto_clear", .boolean config.stackAutoClear),
    ("address_dependency", .boolean config.addressDependency),
    ("writeback_exclusion", .string config.exclusion.name)]

/-- The settings of a record. -/
def ofJson? (value : Json) : Option AnalysisConfig := do
  let record ← value.record? fieldNames
  let shadowBase ← record.optional "shadow_base" standard.shadowBase Json.uint32?
  let shadowSize ← record.optional "shadow_size" standard.shadowSize Json.uint64?
  let defaultLabel ← record.optional "default_label" standard.defaultLabel Json.uint8?
  let clearExclusiveStatus ←
    record.optional "clear_exclusive_status" standard.clearExclusiveStatus Json.boolean?
  let stackAutoClear ←
    record.optional "stack_auto_clear" standard.stackAutoClear Json.boolean?
  let addressDependency ←
    record.optional "address_dependency" standard.addressDependency Json.boolean?
  let exclusion ←
    record.optional "writeback_exclusion" standard.exclusion
      (Json.named? false Exclusion.ofName?)
  return ⟨shadowBase, shadowSize, defaultLabel, clearExclusiveStatus, stackAutoClear,
    addressDependency, exclusion⟩

/-- The text of settings. -/
def text (config : AnalysisConfig) : String := config.toJson.compact

/-- The settings that a text denotes. -/
def ofText? (text : List Char) : Option AnalysisConfig :=
  (Json.readNested text.length text).bind ofJson?

end AnalysisConfig

namespace LogConfig

/-- The names of the settings, in order. -/
def fieldNames : List String := ["console_level", "file_level", "file", "taint_level"]

/-- Settings with every field. -/
def toJson (config : LogConfig) : Json :=
  .object [
    ("console_level", .string config.consoleLevel),
    ("file_level", .string config.fileLevel),
    ("file", Json.ofOption Json.string config.file),
    ("taint_level", Json.ofOption Json.string config.taintLevel)]

/-- The settings of a record. -/
def ofJson? (value : Json) : Option LogConfig := do
  let record ← value.record? fieldNames
  let consoleLevel ← record.optional "console_level" standard.consoleLevel Json.string?
  let fileLevel ← record.optional "file_level" standard.fileLevel Json.string?
  let file ← record.optional "file" none (Json.nullable Json.string?)
  let taintLevel ← record.optional "taint_level" none (Json.nullable Json.string?)
  return ⟨consoleLevel, fileLevel, file, taintLevel⟩

end LogConfig
end ShadowTaint
