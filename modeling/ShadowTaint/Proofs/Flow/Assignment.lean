import ShadowTaint.Flow.Rules
import ShadowTaint.Proofs.Shadow.Refinement

/-!
# Instructions as simultaneous assignments

An instruction assigns taint to registers and stores labels into memory, all at
once: every right side is taken from the state before. `Instruction.assign` gives
the state after from two lists, one entry for each family of operations. Where a
register is assigned twice the first entry counts, so the order of a list says what
prevails when registers coincide; stores never overlap.
-/

namespace ShadowTaint

/-- The taint of every register of a thread and the label of every address. -/
@[ext] structure Snapshot where
  taint : Reg -> Lanes
  memory : LabelMap

/-- A store that an instruction makes into the bytes of one access. -/
structure SlotStore where
  first : UInt32
  width : Width
  lanes : Lanes

namespace SlotStore

/-- The store gives the address its label. -/
def covers (store : SlotStore) (address : Nat) : Bool :=
  store.first.toNat ≤ address && address < store.first.toNat + store.width.bytes

/-- The label of an address that the store covers. -/
def label (store : SlotStore) (address : Nat) : UInt8 :=
  store.lanes.toList.getD (address - store.first.toNat) 0

end SlotStore

namespace Snapshot

/-- The union of the taint of several registers. -/
def union (before : Snapshot) (regs : List Reg) : Lanes :=
  regs.foldr (fun reg taint => (before.taint reg).union taint) Lanes.clean

/-- The labels of an access, as the taint of a register. -/
def loaded (before : Snapshot) (address : UInt32) (width : Width) : Lanes :=
  before.memory.lanes address.toNat width

/-- Registers, each with the taint of the word in its slot. -/
def slotLoads (before : Snapshot) (slots : List (Reg × UInt32)) : List (Reg × Lanes) :=
  slots.map fun (reg, address) => (reg, before.loaded address .word)

/-- Stores of registers into the words of their slots. -/
def slotStores (before : Snapshot) (slots : List (Reg × UInt32)) : List SlotStore :=
  slots.map fun (reg, address) => ⟨address, .word, before.taint reg⟩

/-- Assign registers and store labels, all at once. -/
def update
    (before : Snapshot)
    (assignments : List (Reg × Lanes))
    (stores : List SlotStore) : Snapshot where
  taint := fun reg => (assignments.lookup reg).getD (before.taint reg)
  memory := { before.memory with
    label := fun address =>
      match stores.find? fun store => store.covers address with
      | some store => store.label address
      | none => before.memory.label address }

/-- An instruction that is done leaves a clean program counter. -/
def settle (before : Snapshot) : Snapshot := before.update [(Reg.pc, Lanes.clean)] []

end Snapshot

/-! ## What an instruction assigns -/

namespace MemRef

/-- The taint of the index register, if loads depend on it. -/
def indexTaint (config : AnalysisConfig) (mem : MemRef) (before : Snapshot) : Lanes :=
  if config.addressDependency && mem.mode.appliesOffset then before.union mem.index.toList
  else Lanes.clean

/-- A base register that is updated by an index register. -/
def baseAssignment (mem : MemRef) (before : Snapshot) : List (Reg × Lanes) :=
  match mem.mode.writesBack, mem.index with
  | true, some index => [(mem.base, before.union [mem.base, index])]
  | _, _ => []

/-- The status register of an exclusive store, which prevails over the base. -/
def statusAssignment (config : AnalysisConfig) : Option Reg -> List (Reg × Lanes)
  | some status => if config.clearExclusiveStatus then [(status, Lanes.clean)] else []
  | none => []

end MemRef

namespace Operation

/-- The registers that an operation assigns; the first entry for a register counts. -/
def assignments
    (config : AnalysisConfig)
    (opcode : Opcode)
    (context : Context)
    (before : Snapshot) : Operation -> List (Reg × Lanes)
  | move target source => [(target, before.union source.regs)]
  | constant target =>
      [(target,
        if opcode = .movt then (before.taint target).truncate .half else Lanes.clean)]
  | extract target source => [(target, before.taint source)]
  | load width target mem =>
      (target, (before.loaded (mem.address context) width).union
        (mem.indexTaint config before)) :: mem.baseAssignment before
  | loadDual first second mem =>
      (second, (before.loaded (mem.address context + 4) .word).union
        (mem.indexTaint config before)) ::
      (first, (before.loaded (mem.address context) .word).union
        (mem.indexTaint config before)) :: mem.baseAssignment before
  | store _ _ mem status | storeDual _ _ mem status =>
      MemRef.statusAssignment config status ++ mem.baseAssignment before
  | arithmetic target left right => [(target, before.union (left.regs ++ right.regs))]
  | multiplyAccumulate target left right accumulator =>
      [(target, before.union [left, right, accumulator])]
  | multiplyLong low high left right =>
      [(high, before.union [left, right]), (low, before.union [left, right])]
  | multiplyAccumulateLong low high left right =>
      [(high, before.union [left, right, low, high]),
        (low, before.union [left, right, low, high])]
  | branch link target =>
      (if target.isImmediate then [] else [(Reg.pc, before.union target.regs)]) ++
        if link then [(Reg.lr, before.taint Reg.pc)] else []
  | loadMultiple block =>
      before.slotLoads (block.transferred config.exclusion (context.value block.base))
  | storeMultiple _ | inert | unsupported _ => []

/-- The stores that an operation makes. -/
def stores
    (config : AnalysisConfig)
    (context : Context)
    (before : Snapshot) : Operation -> List SlotStore
  | store width source mem _ => [⟨mem.address context, width, before.taint source⟩]
  | storeDual first second mem _ =>
      [⟨mem.address context, .word, before.taint first⟩,
        ⟨mem.address context + 4, .word, before.taint second⟩]
  | storeMultiple block =>
      before.slotStores (block.transferred config.exclusion (context.value block.base))
  | _ => []

end Operation

namespace Instruction

/-- The registers that an instruction assigns. -/
def assignments
    (config : AnalysisConfig)
    (context : Context)
    (instr : Instruction)
    (before : Snapshot) : List (Reg × Lanes) :=
  if instr.opcode.isSimd then []
  else
    match instr.zeroingTarget? with
    | some target => [(target, Lanes.clean)]
    | none => instr.operation.assignments config instr.opcode context before

/-- The stores that an instruction makes. -/
def stores
    (config : AnalysisConfig)
    (context : Context)
    (instr : Instruction)
    (before : Snapshot) : List SlotStore :=
  if instr.opcode.isSimd then [] else instr.operation.stores config context before

/-- The snapshot with the stack frame cleaned that the instruction allocates. -/
def withNewFrame
    (config : AnalysisConfig)
    (context : Context)
    (instr : Instruction)
    (before : Snapshot) : Snapshot :=
  match config.stackAutoClear, instr.allocatedFrame? with
  | true, some size =>
      let stack := context.value Reg.sp
      if size ≤ stack then
        { before with
          memory := before.memory.fill (stack.toNat - size.toNat) size.toNat 0 }
      else before
  | _, _ => before

/-- The snapshot after an instruction that executes. -/
def assign
    (config : AnalysisConfig)
    (context : Context)
    (instr : Instruction)
    (before : Snapshot) : Snapshot :=
  ((instr.withNewFrame config context before).update
    (instr.assignments config context before)
    (instr.stores config context before)).settle

/-- Nothing but the program counter changes at a vector instruction, one that moves no
data, and one that is not supported. -/
theorem assign_eq_settle
    {instr : Instruction}
    (idle : instr.opcode.isSimd = true ∨ instr.operation = .inert ∨
      ∃ kind, instr.operation = .unsupported kind)
    (config : AnalysisConfig)
    (context : Context)
    (before : Snapshot) :
    instr.assign config context before = before.settle := by
  have allocatesNone : instr.allocatedFrame? = none := by
    rcases idle with simd | inert | ⟨kind, unsupported⟩
    · simp [allocatedFrame?, Opcode.isSubtract_of_isSimd simd]
    · simp [allocatedFrame?, inert]
    · simp [allocatedFrame?, unsupported]
  have sameFrame : instr.withNewFrame config context before = before := by
    simp [withNewFrame, allocatesNone]
  have assignsNothing : instr.assignments config context before = [] := by
    rcases idle with simd | inert | ⟨kind, unsupported⟩
    · simp [assignments, simd]
    · simp [assignments, zeroingTarget?, inert, Operation.assignments]
    · simp [assignments, zeroingTarget?, unsupported, Operation.assignments]
  have storesNothing : instr.stores config context before = [] := by
    rcases idle with simd | inert | ⟨kind, unsupported⟩
    · simp [stores, simd]
    · simp [stores, inert, Operation.stores]
    · simp [stores, unsupported, Operation.stores]
  rw [assign, sameFrame, assignsNothing, storesNothing]
  rfl

end Instruction
end ShadowTaint
