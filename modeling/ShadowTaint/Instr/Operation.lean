import ShadowTaint.Arch.Cond
import ShadowTaint.Arch.Opcode
import ShadowTaint.Instr.Block
import ShadowTaint.Instr.MemRef
import ShadowTaint.Instr.Operand

/-!
# Decoded instructions

A decoder sorts every instruction into one of sixteen families and gives the
operands on which data flow depends. The opcode is kept beside the family, and
either may be combined with any of the other. Three questions about a decoded
instruction are answered here because they depend on nothing else: whether it
always computes zero, whether it allocates a stack frame, and whether it loads
the program counter from registers or memory.
-/

namespace ShadowTaint

/-- Why there is no taint rule for an instruction. -/
inductive UnsupportedKind
  /-- A vector or floating-point instruction. -/
  | simd
  /-- An integer instruction whose data flow is not described. -/
  | unmodeled
  deriving DecidableEq, Inhabited

namespace UnsupportedKind

/-- The name of a kind. -/
def name : UnsupportedKind -> String
  | simd => "simd"
  | unmodeled => "unmodeled"

/-- The kind with a given name. -/
def ofName? : String -> Option UnsupportedKind
  | "simd" => some simd
  | "unmodeled" => some unmodeled
  | _ => none

@[simp] theorem ofName?_name (kind : UnsupportedKind) : ofName? kind.name = some kind := by
  cases kind <;> rfl

end UnsupportedKind

/-- The data flow of an instruction, by family. -/
inductive Operation
  /-- The target becomes the source operand. -/
  | move (target : Reg) (source : Operand)
  /-- The target becomes a value made of constants. -/
  | constant (target : Reg)
  /-- The target becomes a rearrangement of the bits of the source. -/
  | extract (target source : Reg)
  /-- The target becomes a value loaded from memory. -/
  | load (width : Width) (target : Reg) (mem : MemRef)
  /-- Two targets become two consecutive words. -/
  | loadDual (first second : Reg) (mem : MemRef)
  /-- A register goes to memory; an exclusive store reports a status. -/
  | store (width : Width) (source : Reg) (mem : MemRef) (status : Option Reg)
  /-- Two registers go to two consecutive words. -/
  | storeDual (first second : Reg) (mem : MemRef) (status : Option Reg)
  /-- The target becomes a function of two operands. -/
  | arithmetic (target : Reg) (left right : Operand)
  /-- The target becomes the accumulator plus or minus a product. -/
  | multiplyAccumulate (target left right accumulator : Reg)
  /-- Two targets become the halves of a long product. -/
  | multiplyLong (low high left right : Reg)
  /-- A long product is added to the two targets. -/
  | multiplyAccumulateLong (low high left right : Reg)
  /-- A jump, with the return address in the link register if `link` is set. -/
  | branch (link : Bool) (target : Operand)
  /-- Registers become consecutive words. -/
  | loadMultiple (block : BlockTransfer)
  /-- Registers go to consecutive words. -/
  | storeMultiple (block : BlockTransfer)
  /-- Nothing flows between registers and memory. -/
  | inert
  /-- There is no taint rule. -/
  | unsupported (kind : UnsupportedKind)
  deriving DecidableEq

namespace Operation

/-- The new program counter comes from registers or memory. -/
def writesPc : Operation -> Bool
  | branch _ target => !target.isImmediate
  | load _ target _ | move target _ | extract target _ | arithmetic target _ _ =>
      target == Reg.pc
  | loadDual first second _ => first == Reg.pc || second == Reg.pc
  | loadMultiple block => block.regs.contains Reg.pc
  | _ => false

end Operation

/-- One decoded instruction. -/
structure Instruction where
  pc : UInt32
  opcode : Opcode
  /-- The condition under which the instruction executes. -/
  predicate : Option Cond
  operation : Operation
  deriving DecidableEq

namespace Instruction

/-- The condition that decides whether the instruction executes; an instruction
that always executes has none. -/
def condition? (instr : Instruction) : Option Cond :=
  instr.predicate.filter fun cond => cond != .al

/-- Execution depends on the flags. -/
def isPredicated (instr : Instruction) : Bool := instr.condition?.isSome

/-- The target of an instruction that combines a register with itself and so
computes zero. -/
def zeroingTarget? (instr : Instruction) : Option Reg :=
  match instr.opcode.zeroesEqualSources, instr.operation with
  | true, .arithmetic target (.register left) (.register right) =>
      if left = right then some target else none
  | _, _ => none

/-- The number of bytes by which an instruction lowers the stack pointer to
allocate a frame. -/
def allocatedFrame? (instr : Instruction) : Option UInt32 :=
  match instr.opcode.isSubtract, instr.operation with
  | true, .arithmetic target (.register left) (.immediate size) =>
      if target = Reg.sp ∧ left = Reg.sp ∧ 0 < size.toInt ∧ size.toInt < UInt32.size then
        some (UInt32.ofNat size.toInt.toNat)
      else none
  | _, _ => none

theorem condition?_eq_some_iff {instr : Instruction} {cond : Cond} :
    instr.condition? = some cond ↔ instr.predicate = some cond ∧ cond ≠ .al := by
  simp [condition?, Option.filter_eq_some_iff]

end Instruction
end ShadowTaint
