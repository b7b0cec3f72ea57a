import ShadowTaint.Proofs.Trace.View

/-!
# Footprints

The footprint of an event is the ranges of shadow memory that it reads and writes. It
depends on the values recorded in the event, on the settings, and on whether the event's
instruction executes, but on no label. An access is allowed if its range is empty or lies
in the extent of the memory.
-/

namespace ShadowTaint

/-- The range of addresses that an access names. -/
structure Span where
  first : UInt32
  length : Nat
  deriving DecidableEq

/-- The range holds an address. -/
def Span.Contains (span : Span) (address : Nat) : Prop :=
  span.first.toNat ≤ address ∧ address < span.first.toNat + span.length

/-- The range of addresses that a memory maps. -/
structure Extent where
  base : Nat
  size : Nat
  deriving DecidableEq

/-- The extent of a memory, without its labels. -/
def Memory.extent (memory : Memory) : Extent := ⟨memory.base.toNat, memory.size⟩

namespace Extent

/-- Every address of a range is mapped. -/
def Maps (extent : Extent) (span : Span) : Prop :=
  span.length = 0 ∨
    extent.base ≤ span.first.toNat ∧
      span.first.toNat + span.length ≤ extent.base + extent.size

instance (extent : Extent) (span : Span) : Decidable (extent.Maps span) :=
  inferInstanceAs (Decidable (_ ∨ _))

/-- The fault of an access that is not mapped. -/
def fault (extent : Extent) (span : Span) : Fault :=
  .shadowAccess span.first.toNat (span.first.toNat + span.length)
    extent.base (extent.base + extent.size)

/-- The fault of an access, if it is one. -/
def check (extent : Extent) (span : Span) : Option Fault :=
  if extent.Maps span then none else some (extent.fault span)

/-- The first fault of several accesses. -/
def checkAll (extent : Extent) (spans : List Span) : Option Fault :=
  spans.findSome? extent.check

theorem check_eq_some_iff {extent : Extent} {span : Span} {fault : Fault} :
    extent.check span = some fault ↔ ¬extent.Maps span ∧ extent.fault span = fault := by
  simp [check]

@[simp] theorem checkAll_nil (extent : Extent) : extent.checkAll [] = none := rfl

theorem checkAll_cons (extent : Extent) (span : Span) (rest : List Span) :
    extent.checkAll (span :: rest) = (extent.check span).or (extent.checkAll rest) := by
  rw [checkAll, List.findSome?_cons]
  cases extent.check span <;> rfl

theorem checkAll_append (extent : Extent) (first second : List Span) :
    extent.checkAll (first ++ second) =
      (extent.checkAll first).or (extent.checkAll second) :=
  List.findSome?_append

@[simp] theorem checkAll_singleton (extent : Extent) (span : Span) :
    extent.checkAll [span] = extent.check span := by
  rw [checkAll_cons, checkAll_nil, Option.or_none]

theorem checkAll_eq_none_iff {extent : Extent} {spans : List Span} :
    extent.checkAll spans = none ↔ ∀ span ∈ spans, extent.Maps span := by
  simp [checkAll, check]

end Extent

/-- What an event reads from shadow memory, and what it writes. -/
structure Footprint where
  reads : List Span
  writes : List Span
  deriving DecidableEq

namespace Footprint

/-- Nothing is accessed. -/
def empty : Footprint := ⟨[], []⟩

/-- An address is read. -/
def Reads (footprint : Footprint) (address : Nat) : Prop :=
  ∃ span ∈ footprint.reads, span.Contains address

/-- An address is written. -/
def Writes (footprint : Footprint) (address : Nat) : Prop :=
  ∃ span ∈ footprint.writes, span.Contains address

/-- Every access; an event that reads is not stopped in its writes. -/
def accesses (footprint : Footprint) : List Span := footprint.writes ++ footprint.reads

end Footprint

namespace MemRef

/-- The words of a dual access; the second may wrap around. -/
def words (mem : MemRef) (context : Context) : List Span :=
  [⟨mem.address context, 4⟩, ⟨mem.address context + 4, 4⟩]

end MemRef

namespace BlockTransfer

/-- The words of the slots of a block transfer. -/
def words (block : BlockTransfer) (config : AnalysisConfig) (context : Context) : List Span :=
  (block.transferred config.exclusion (context.value block.base)).map fun slot => ⟨slot.2, 4⟩

end BlockTransfer

namespace Operation

/-- The accesses of an operation. -/
def footprint (config : AnalysisConfig) (context : Context) : Operation -> Footprint
  | load width _ mem => ⟨[⟨mem.address context, width.bytes⟩], []⟩
  | loadDual _ _ mem => ⟨mem.words context, []⟩
  | loadMultiple block => ⟨block.words config context, []⟩
  | store width _ mem _ => ⟨[], [⟨mem.address context, width.bytes⟩]⟩
  | storeDual _ _ mem _ => ⟨[], mem.words context⟩
  | storeMultiple block => ⟨[], block.words config context⟩
  | _ => .empty

/-- The fault of arithmetic without a register among its sources. -/
def immediateFault? : Operation -> Option Fault
  | arithmetic _ (.immediate left) (.immediate right) =>
      some (.immediateSources left.toInt right.toInt)
  | _ => none

end Operation

namespace Instruction

/-- The stack frame that an instruction allocates, if it is cleaned. -/
def newFrame (config : AnalysisConfig) (context : Context) (instr : Instruction) : List Span :=
  match config.stackAutoClear, instr.allocatedFrame? with
  | true, some size =>
      if size ≤ context.value Reg.sp then [⟨context.value Reg.sp - size, size.toNat⟩] else []
  | _, _ => []

/-- The accesses of an instruction that executes. -/
def footprint (config : AnalysisConfig) (context : Context) (instr : Instruction) :
    Footprint :=
  if instr.opcode.isSimd then ⟨[], instr.newFrame config context⟩
  else
    ⟨(instr.operation.footprint config context).reads,
      instr.newFrame config context ++ (instr.operation.footprint config context).writes⟩

/-- The fault of arithmetic on immediates, which vector instructions do not do. -/
def immediateFault? (instr : Instruction) : Option Fault :=
  if instr.opcode.isSimd then none else instr.operation.immediateFault?

/-- The first violation of an instruction that executes: an access that is not mapped,
or arithmetic on two immediates. -/
def violation?
    (extent : Extent)
    (config : AnalysisConfig)
    (context : Context)
    (instr : Instruction) : Option Fault :=
  (extent.checkAll (instr.footprint config context).accesses).or instr.immediateFault?

end Instruction

namespace MemoryArgument

/-- The range of a buffer. -/
def span (argument : MemoryArgument) : Span := ⟨argument.address, argument.length.toNat⟩

end MemoryArgument

namespace ControlRequest

/-- The accesses of a request: a query reads its range, and the others write it. -/
def footprint (request : ControlRequest) : Footprint :=
  match request.kind with
  | .taint | .clear => ⟨[], [⟨request.address, request.length.toNat⟩]⟩
  | .query => ⟨[⟨request.address, request.length.toNat⟩], []⟩

end ControlRequest

namespace Event

/-- The accesses of an event, whose instruction executes or not. -/
def footprint (config : AnalysisConfig) (executes : Bool) : Event -> Footprint
  | step _ instr context => if executes then instr.footprint config context else .empty
  | callEntry _ number arguments =>
      ((ControlRequest.ofCall? number arguments).map ControlRequest.footprint).getD .empty
  | callReturn _ call =>
      if call.succeeded then ⟨[], call.outputs.map MemoryArgument.span⟩ else .empty
  | taint address length _ | untaint address length => ⟨[], [⟨address, length.toNat⟩]⟩
  | threadExit _ => .empty

/-- The fault of arithmetic on immediates, if the event's instruction executes. -/
def immediateFault? (executes : Bool) : Event -> Option Fault
  | step _ instr _ => if executes then instr.immediateFault? else none
  | callEntry _ _ _ | callReturn _ _ | taint _ _ _ | untaint _ _ | threadExit _ => none

/-- The first violation of an event, whose instruction executes or not. -/
def violation?
    (extent : Extent)
    (config : AnalysisConfig)
    (executes : Bool)
    (event : Event) : Option Fault :=
  (extent.checkAll (event.footprint config executes).accesses).or
    (event.immediateFault? executes)

end Event

namespace Replay

/-- The instruction of an event executes, as its thread meets it. -/
def executes (replay : Replay) : Event -> Bool
  | .step id instr context =>
      ((replay.view id).thread.arrive instr context).executes instr
  | .callEntry _ _ _ | .callReturn _ _ | .taint _ _ _ | .untaint _ _ | .threadExit _ => false

end Replay
end ShadowTaint
