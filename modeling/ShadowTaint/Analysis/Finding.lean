import ShadowTaint.Flow.Rules

/-!
# Findings

Two things are worth reporting: a jump whose target is tainted, and a memory
access through a tainted address register. A finding names the instruction and
carries the taint that was seen.
-/

namespace ShadowTaint

/-- An instruction that loaded a tainted program counter. -/
structure TaintedJump where
  pc : UInt32
  opcode : Opcode
  taint : Lanes
  deriving DecidableEq

/-- An instruction that accessed memory through a tainted register. -/
structure TaintedAccess where
  pc : UInt32
  opcode : Opcode
  /-- The tainted address register. -/
  reg : Reg
  taint : Lanes
  isStore : Bool
  deriving DecidableEq

namespace TaintedAccess

/-- The finding about one address register of an instruction. -/
def check (instr : Instruction) (isStore : Bool) (registers : RegisterFile) (reg : Reg) :
    Option TaintedAccess :=
  let taint := registers.get reg
  if taint.isTainted then some ⟨instr.pc, instr.opcode, reg, taint, isStore⟩ else none

/-- The findings about an instruction, from the registers before it. -/
def ofInstruction (instr : Instruction) (registers : RegisterFile) : List TaintedAccess :=
  match instr.operation.addressRegs? with
  | some (regs, isStore) => regs.filterMap (check instr isStore registers)
  | none => []

end TaintedAccess

namespace TaintedJump

/-- The finding about an instruction, from the registers after it. -/
def ofInstruction? (instr : Instruction) (registers : RegisterFile) : Option TaintedJump :=
  let taint := registers.get Reg.pc
  if instr.operation.writesPc && taint.isTainted then
    some ⟨instr.pc, instr.opcode, taint⟩
  else none

end TaintedJump

/-- What an analysis has found, in the order in which it was found. -/
structure Findings where
  jumps : Array TaintedJump
  accesses : Array TaintedAccess
  /-- The number of bytes that system calls have brought in with a label. -/
  inputBytes : Nat
  deriving DecidableEq

namespace Findings

/-- Nothing was found. -/
def none : Findings := ⟨#[], #[], 0⟩

instance : Inhabited Findings := ⟨none⟩

/-- Add the accesses of an instruction. -/
def addAccesses (findings : Findings) (accesses : List TaintedAccess) : Findings :=
  { findings with accesses := findings.accesses ++ accesses }

/-- Add the jump of an instruction, if it is one. -/
def addJump (findings : Findings) (jump? : Option TaintedJump) : Findings :=
  { findings with jumps := findings.jumps ++ jump?.toList }

/-- Add to the number of bytes that carry the label of a source. -/
def addInput (findings : Findings) (bytes : Nat) : Findings :=
  { findings with inputBytes := findings.inputBytes + bytes }

end Findings
end ShadowTaint
