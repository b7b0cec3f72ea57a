import ShadowTaint.Instr.Block
import ShadowTaint.Shadow.Memory

/-!
# Settings of an analysis

The extent of the shadow memory, the label of taint that comes without one, and
three switches and a choice that vary the taint rules.
-/

namespace ShadowTaint

/-- The settings of an analysis. -/
structure AnalysisConfig where
  /-- The lowest address with a shadow. -/
  shadowBase : UInt32
  /-- The number of addresses with a shadow. -/
  shadowSize : UInt64
  /-- The label of taint that is requested without a label. -/
  defaultLabel : UInt8
  /-- The status register of an exclusive store becomes clean. -/
  clearExclusiveStatus : Bool
  /-- A freshly allocated stack frame becomes clean. -/
  stackAutoClear : Bool
  /-- A loaded value carries the taint of the index register of its address. -/
  addressDependency : Bool
  /-- What a block transfer does about a base register in its own list. -/
  exclusion : Exclusion
  deriving DecidableEq

namespace AnalysisConfig

/-- All of the address space, label one, and every switch on. -/
def standard : AnalysisConfig where
  shadowBase := 0
  shadowSize := 0x100000000
  defaultLabel := 1
  clearExclusiveStatus := true
  stackAutoClear := true
  addressDependency := true
  exclusion := .stopAtBase

instance : Inhabited AnalysisConfig := ⟨standard⟩

/-- Clean shadow memory of the configured extent. -/
def createMemory (config : AnalysisConfig) : Except Fault Memory :=
  Memory.create config.shadowBase config.shadowSize

end AnalysisConfig
end ShadowTaint
