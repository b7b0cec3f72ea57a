import ShadowTaint.Config.Analysis
import ShadowTaint.Flow.Shadow
import ShadowTaint.Instr.Operation

/-!
# Taint rules

The rule of an instruction changes the shadow state step by step. The order of
the steps matters where registers coincide: what is loaded is read before the
base register is updated and written after it, the target of a linking branch is
read before the link register changes, and the results of a long multiplication
are both computed from the sources as they were.
-/

namespace ShadowTaint

/-- What became of one instruction. -/
inductive StepOutcome
  /-- Its taint rule was applied. -/
  | executed
  /-- Its predicate was false. -/
  | skipped
  /-- There is no taint rule for it. -/
  | unhandled (kind : UnsupportedKind)
  deriving DecidableEq

namespace MemRef

/-- What the computation of the address adds to the taint of a loaded value. -/
def addressTaint (config : AnalysisConfig) (mem : MemRef) (registers : RegisterFile) :
    Lanes :=
  if config.addressDependency then (mem.addressIndex?.map registers.get).getD Lanes.clean
  else Lanes.clean

/-- The base register update of an access: a register offset adds the taint of
the index, a constant offset adds none. -/
def writeback (mem : MemRef) (shadow : Shadow) : Shadow :=
  if mem.mode.writesBack then
    match mem.index with
    | some index => shadow.set mem.base (shadow.registers.union [mem.base, index])
    | none => shadow
  else shadow

end MemRef

namespace Shadow

/-- The status register of an exclusive store. -/
def clearStatus (config : AnalysisConfig) (status : Option Reg) (shadow : Shadow) : Shadow :=
  match status with
  | some reg => if config.clearExclusiveStatus then shadow.clean reg else shadow
  | none => shadow

/-- Load registers from their slots, one after the other. -/
def loadSlots (shadow : Shadow) : List (Reg × UInt32) -> Reached Fault Shadow Unit
  | [] => .done shadow ()
  | (reg, address) :: rest =>
      (shadow.load address .word).andThen fun shadow taint =>
        (shadow.set reg taint).loadSlots rest

/-- Store registers into their slots, one after the other. -/
def storeSlots (shadow : Shadow) : List (Reg × UInt32) -> Reached Fault Shadow Unit
  | [] => .done shadow ()
  | (reg, address) :: rest =>
      (shadow.store address .word (shadow.registers.get reg)).andThen fun shadow _ =>
        shadow.storeSlots rest

end Shadow

namespace Operation

/-- A constant replaces a register, or only its upper half. -/
def propagateConstant (opcode : Opcode) (target : Reg) (shadow : Shadow) : Shadow :=
  if opcode = .movt then shadow.set target ((shadow.registers.get target).truncate .half)
  else shadow.clean target

/-- A register is loaded. -/
def propagateLoad (config : AnalysisConfig) (context : Context) (width : Width)
    (target : Reg) (mem : MemRef) (shadow : Shadow) : Reached Fault Shadow Unit :=
  (shadow.load (mem.address context) width).andThen fun shadow loaded =>
    let taint := loaded.union (mem.addressTaint config shadow.registers)
    .done ((mem.writeback shadow).set target taint) ()

/-- Two registers are loaded from consecutive words. -/
def propagateLoadDual (config : AnalysisConfig) (context : Context) (first second : Reg)
    (mem : MemRef) (shadow : Shadow) : Reached Fault Shadow Unit :=
  let address := mem.address context
  let index := mem.addressTaint config shadow.registers
  (shadow.load address .word).andThen fun shadow low =>
    (shadow.load (address + 4) .word).andThen fun shadow high =>
      let loaded := (mem.writeback shadow).set first (low.union index)
      .done (loaded.set second (high.union index)) ()

/-- A register is stored. -/
def propagateStore (config : AnalysisConfig) (context : Context) (width : Width)
    (source : Reg) (mem : MemRef) (status : Option Reg) (shadow : Shadow) :
    Reached Fault Shadow Unit :=
  let taint := shadow.registers.get source
  (shadow.store (mem.address context) width taint).andThen fun shadow _ =>
    .done ((mem.writeback shadow).clearStatus config status) ()

/-- Two registers are stored to consecutive words. -/
def propagateStoreDual (config : AnalysisConfig) (context : Context) (first second : Reg)
    (mem : MemRef) (status : Option Reg) (shadow : Shadow) : Reached Fault Shadow Unit :=
  let address := mem.address context
  let low := shadow.registers.get first
  let high := shadow.registers.get second
  (shadow.store address .word low).andThen fun shadow _ =>
    (shadow.store (address + 4) .word high).andThen fun shadow _ =>
      .done ((mem.writeback shadow).clearStatus config status) ()

/-- A register becomes a function of two operands, one of which has to be a
register. -/
def propagateArithmetic (target : Reg) (left right : Operand) (shadow : Shadow) :
    Reached Fault Shadow Unit :=
  match left, right with
  | .immediate leftValue, .immediate rightValue =>
      .stopped shadow (.immediateSources leftValue.toInt rightValue.toInt)
  | _, _ =>
      let taint := (shadow.registers.operand left).union (shadow.registers.operand right)
      .done (shadow.set target taint) ()

/-- Two registers become the halves of one result. -/
def propagateHalves (low high : Reg) (sources : List Reg) (shadow : Shadow) : Shadow :=
  let taint := shadow.registers.union sources
  (shadow.set low taint).set high taint

/-- A link copies the taint of the program counter, and a target that is not an
immediate moves its taint onto the program counter. -/
def propagateBranch (link : Bool) (target : Operand) (shadow : Shadow) : Shadow :=
  let targetTaint? :=
    if target.isImmediate then none else some (shadow.registers.operand target)
  let linked :=
    if link then shadow.set Reg.lr (shadow.registers.get Reg.pc) else shadow
  match targetTaint? with
  | some taint => linked.set Reg.pc taint
  | none => linked

/-- The rule of each family of operations. -/
def propagate (config : AnalysisConfig) (opcode : Opcode) (context : Context)
    (shadow : Shadow) : Operation -> Reached Fault Shadow Unit
  | move target source => .done (shadow.set target (shadow.registers.operand source)) ()
  | constant target => .done (propagateConstant opcode target shadow) ()
  | extract target source => .done (shadow.set target (shadow.registers.union [source])) ()
  | load width target mem => propagateLoad config context width target mem shadow
  | loadDual first second mem => propagateLoadDual config context first second mem shadow
  | store width source mem status =>
      propagateStore config context width source mem status shadow
  | storeDual first second mem status =>
      propagateStoreDual config context first second mem status shadow
  | arithmetic target left right => propagateArithmetic target left right shadow
  | multiplyAccumulate target left right accumulator =>
      .done (shadow.set target (shadow.registers.union [left, right, accumulator])) ()
  | multiplyLong low high left right =>
      .done (propagateHalves low high [left, right] shadow) ()
  | multiplyAccumulateLong low high left right =>
      .done (propagateHalves low high [left, right, low, high] shadow) ()
  | branch link target => .done (propagateBranch link target shadow) ()
  | loadMultiple block =>
      shadow.loadSlots (block.transferred config.exclusion (context.value block.base))
  | storeMultiple block =>
      shadow.storeSlots (block.transferred config.exclusion (context.value block.base))
  | inert | unsupported _ => .done shadow ()

/-- The outcome of an operation whose rule was applied. -/
def outcome : Operation -> StepOutcome
  | unsupported kind => .unhandled kind
  | _ => .executed

/-- The registers that form the address of a memory access, and whether the
access is a store. -/
def addressRegs? : Operation -> Option (List Reg × Bool)
  | load _ _ mem | loadDual _ _ mem => some (mem.addressRegs, false)
  | store _ _ mem _ | storeDual _ _ mem _ => some (mem.addressRegs, true)
  | loadMultiple block => some ([block.base], false)
  | storeMultiple block => some ([block.base], true)
  | _ => none

end Operation

namespace Instruction

/-- Clean the stack frame that an instruction allocates. What an earlier frame
left there is not data of the new one. A frame that would reach below address
zero is left alone. -/
def clearNewFrame (config : AnalysisConfig) (context : Context) (instr : Instruction)
    (shadow : Shadow) : Reached Fault Shadow Unit :=
  if config.stackAutoClear then
    match instr.allocatedFrame? with
    | some size =>
        let stack := context.value Reg.sp
        if size ≤ stack then shadow.fill (stack - size) size 0 else .done shadow ()
    | none => .done shadow ()
  else .done shadow ()

/-- Apply the taint rule of an instruction. -/
def propagate (config : AnalysisConfig) (context : Context) (instr : Instruction)
    (shadow : Shadow) : Reached Fault Shadow StepOutcome :=
  if instr.opcode.isSimd then .done shadow (.unhandled .simd)
  else
    match instr.zeroingTarget? with
    | some target => .done (shadow.clean target) .executed
    | none =>
        (instr.operation.propagate config instr.opcode context shadow).andThen
          fun shadow _ => .done shadow instr.operation.outcome

/-- Everything that an executing instruction does to the shadow state. -/
def execute (config : AnalysisConfig) (context : Context) (instr : Instruction)
    (shadow : Shadow) : Reached Fault Shadow StepOutcome :=
  (instr.clearNewFrame config context shadow).andThen fun shadow _ =>
    instr.propagate config context shadow

end Instruction
end ShadowTaint
