import ShadowTaint.Reached
import ShadowTaint.Shadow.Memory
import ShadowTaint.Shadow.RegisterFile

/-!
# Shadow state in reach

The registers of one thread and the memory that all threads share, as a taint
rule sees them. A rule changes them step by step, and an access to memory that is
not mapped stops the rule with what it has changed so far.
-/

namespace ShadowTaint

/-- The shadow state that an instruction of one thread can reach. -/
structure Shadow where
  registers : RegisterFile
  memory : Memory

namespace Shadow

/-- Give a register a taint. -/
def set (shadow : Shadow) (reg : Reg) (taint : Lanes) : Shadow :=
  match shadow with
  | ⟨registers, memory⟩ => ⟨registers.set reg taint, memory⟩

/-- Clean a register. -/
def clean (shadow : Shadow) (reg : Reg) : Shadow := shadow.set reg Lanes.clean

/-- The taint of the bytes of an access. -/
def load (shadow : Shadow) (address : UInt32) (width : Width) :
    Reached Fault Shadow Lanes :=
  match shadow.memory.read address width with
  | .ok taint => .done shadow taint
  | .error fault => .stopped shadow fault

/-- Change the memory and keep the registers. -/
def changeMemory (shadow : Shadow) (change : Memory -> Reached Fault Memory Unit) :
    Reached Fault Shadow Unit :=
  match shadow with
  | ⟨registers, memory⟩ =>
      (change memory).mapState fun memory => ⟨registers, memory⟩

/-- Store the lanes that an access covers. -/
def store (shadow : Shadow) (address : UInt32) (width : Width) (taint : Lanes) :
    Reached Fault Shadow Unit :=
  shadow.changeMemory fun memory => memory.storeLanes address width taint

/-- Give every byte of a range one label. -/
def fill (shadow : Shadow) (address length : UInt32) (label : UInt8) :
    Reached Fault Shadow Unit :=
  shadow.changeMemory fun memory => memory.storeRange address length label

@[simp] theorem registers_set (shadow : Shadow) (reg : Reg) (taint : Lanes) :
    (shadow.set reg taint).registers = shadow.registers.set reg taint := rfl

@[simp] theorem memory_set (shadow : Shadow) (reg : Reg) (taint : Lanes) :
    (shadow.set reg taint).memory = shadow.memory := rfl

@[simp] theorem registers_clean (shadow : Shadow) (reg : Reg) :
    (shadow.clean reg).registers = shadow.registers.set reg Lanes.clean := rfl

@[simp] theorem memory_clean (shadow : Shadow) (reg : Reg) :
    (shadow.clean reg).memory = shadow.memory := rfl

end Shadow
end ShadowTaint
