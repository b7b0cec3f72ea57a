import ShadowTaint.Proofs.Access.Contract
import ShadowTaint.Proofs.Flow.Updates

/-!
# Which events violate their contract

The contract of an event, family by family: what it accesses has to be mapped, and
arithmetic needs a register among its sources. An event faults exactly if it violates
this contract. Which labels the memory holds plays no part, and the slots of a block
transfer are always where a checked computation of their addresses finds them.
-/

namespace ShadowTaint

/-! ## Contracts -/

/-- An operation accesses what is not mapped, or has two immediate sources. -/
def Operation.Violates
    (extent : Extent)
    (config : AnalysisConfig)
    (context : Context) : Operation -> Prop
  | load width _ mem | store width _ mem _ =>
      ¬extent.Maps ⟨mem.address context, width.bytes⟩
  | loadDual _ _ mem | storeDual _ _ mem _ =>
      ¬extent.Maps ⟨mem.address context, 4⟩ ∨ ¬extent.Maps ⟨mem.address context + 4, 4⟩
  | loadMultiple block | storeMultiple block =>
      ∃ slot ∈ block.transferred config.exclusion (context.value block.base),
        ¬extent.Maps ⟨slot.2, 4⟩
  | arithmetic _ left right => left.isImmediate = true ∧ right.isImmediate = true
  | _ => False

/-- An executing instruction has to clean a frame that is not mapped, or its operation
is not that of a vector instruction and violates its contract. -/
def Instruction.Violates
    (extent : Extent)
    (config : AnalysisConfig)
    (context : Context)
    (instr : Instruction) : Prop :=
  (∃ size, config.stackAutoClear = true ∧ instr.allocatedFrame? = some size ∧
    size ≤ context.value Reg.sp ∧
    ¬extent.Maps ⟨context.value Reg.sp - size, size.toNat⟩) ∨
  instr.opcode.isSimd = false ∧ instr.operation.Violates extent config context

/-- An event violates its contract, its instruction executing or not. -/
def Event.Violates (extent : Extent) (config : AnalysisConfig) (executes : Bool) :
    Event -> Prop
  | step _ instr context => executes = true ∧ instr.Violates extent config context
  | callEntry _ number arguments =>
      ∃ request, ControlRequest.ofCall? number arguments = some request ∧
        ¬extent.Maps ⟨request.address, request.length.toNat⟩
  | callReturn _ call =>
      call.succeeded = true ∧ ∃ argument ∈ call.outputs, ¬extent.Maps argument.span
  | taint address length _ | untaint address length => ¬extent.Maps ⟨address, length.toNat⟩
  | threadExit _ => False

variable {extent : Extent} {config : AnalysisConfig} {context : Context}

/-! ## A contract is violated if there is a first violation -/

theorem Extent.exists_checkAll_iff {spans : List Span} :
    (∃ fault, extent.checkAll spans = some fault) ↔ ∃ span ∈ spans, ¬extent.Maps span := by
  rw [← Option.isSome_iff_exists, ← Option.not_isNone, Bool.not_eq_true',
    ← Bool.not_eq_true, Option.isNone_iff_eq_none, checkAll_eq_none_iff]
  simp

theorem exists_or_iff {first second : Option Fault} :
    (∃ fault, first.or second = some fault) ↔
      (∃ fault, first = some fault) ∨ ∃ fault, second = some fault := by
  cases first <;> simp

theorem Extent.exists_map_iff {range : Listed -> Span} {list : List Listed} :
    (∃ span ∈ list.map range, ¬extent.Maps span) ↔
      ∃ listed ∈ list, ¬extent.Maps (range listed) := by
  constructor
  · rintro ⟨span, member, outside⟩
    obtain ⟨listed, inList, rfl⟩ := List.mem_map.1 member
    exact ⟨listed, inList, outside⟩
  · rintro ⟨listed, inList, outside⟩
    exact ⟨_, List.mem_map_of_mem inList, outside⟩

namespace Operation

variable {operation : Operation}

theorem immediateFault?_eq_some
    {fault : Fault}
    (faulty : operation.immediateFault? = some fault) :
    ∃ left right, fault = .immediateSources left right := by
  unfold immediateFault? at faulty
  split at faulty
  · exact ⟨_, _, (Option.some.inj faulty).symm⟩
  · cases faulty

theorem arithmetic_violates_iff {target : Reg} {left right : Operand} :
    (∃ fault, (arithmetic target left right).immediateFault? = some fault) ↔
      left.isImmediate = true ∧ right.isImmediate = true := by
  cases left <;> cases right <;> simp [immediateFault?, Operand.isImmediate]

theorem violates_iff :
    (∃ fault, (extent.checkAll (operation.footprint config context).accesses).or
      operation.immediateFault? = some fault) ↔ operation.Violates extent config context := by
  rw [exists_or_iff, Extent.exists_checkAll_iff]
  cases operation with
  | arithmetic target left right =>
      rw [arithmetic_violates_iff]
      simp [footprint, Footprint.accesses, Footprint.empty, Violates]
  | loadMultiple block | storeMultiple block =>
      simp only [footprint, Footprint.accesses, immediateFault?, List.nil_append,
        List.append_nil, reduceCtorEq, exists_false, or_false, BlockTransfer.words]
      exact Extent.exists_map_iff
  | _ =>
      simp [footprint, Footprint.accesses, Footprint.empty, immediateFault?, Violates,
        MemRef.words]

end Operation

namespace Instruction

variable {instr : Instruction}

theorem exists_newFrame_iff :
    (∃ span ∈ instr.newFrame config context, ¬extent.Maps span) ↔
      ∃ size, config.stackAutoClear = true ∧ instr.allocatedFrame? = some size ∧
        size ≤ context.value Reg.sp ∧
        ¬extent.Maps ⟨context.value Reg.sp - size, size.toNat⟩ := by
  rw [newFrame]
  cases config.stackAutoClear with
  | false => simp
  | true =>
      cases instr.allocatedFrame? with
      | none => simp
      | some size =>
          by_cases fits : size ≤ context.value Reg.sp
          · simp [fits]
          · dsimp only
            rw [if_neg fits]
            refine iff_of_false (by simp) ?_
            rintro ⟨_, -, same, fitsToo, -⟩
            cases same
            exact fits fitsToo

theorem violates_iff :
    (∃ fault, instr.violation? extent config context = some fault) ↔
      instr.Violates extent config context := by
  rw [violation?, immediateFault?, footprint, Violates, ← exists_newFrame_iff,
    ← Operation.violates_iff, ← Extent.exists_checkAll_iff]
  cases instr.opcode.isSimd with
  | true => simp [Footprint.accesses]
  | false =>
      rw [if_neg Bool.false_ne_true, if_neg Bool.false_ne_true, Footprint.accesses,
        List.append_assoc, Extent.checkAll_append, Option.or_assoc, exists_or_iff]
      simp [Footprint.accesses]

end Instruction

theorem ControlRequest.accesses_footprint (request : ControlRequest) :
    request.footprint.accesses = [⟨request.address, request.length.toNat⟩] := by
  rw [footprint]
  cases request.kind <;> rfl

namespace Event

variable {event : Event} {executes : Bool}

/-- An event violates its contract exactly if there is a first violation. -/
theorem violates_iff :
    (∃ fault, event.violation? extent config executes = some fault) ↔
      event.Violates extent config executes := by
  rw [violation?, exists_or_iff, Extent.exists_checkAll_iff]
  cases event with
  | step id instr context =>
      rw [footprint, immediateFault?, Violates, ← Instruction.violates_iff,
        Instruction.violation?, exists_or_iff, Extent.exists_checkAll_iff]
      cases executes <;> simp [Footprint.accesses, Footprint.empty]
  | callEntry id number arguments =>
      rw [footprint, immediateFault?, Violates]
      cases ControlRequest.ofCall? number arguments with
      | none => simp [Footprint.accesses, Footprint.empty]
      | some request => simp [ControlRequest.accesses_footprint]
  | callReturn id call =>
      rw [footprint, immediateFault?, Violates]
      cases call.succeeded with
      | false => simp [Footprint.accesses, Footprint.empty]
      | true =>
          simp only [Footprint.accesses, if_true, List.append_nil, reduceCtorEq, exists_false,
            or_false, true_and]
          exact Extent.exists_map_iff
  | taint address length label? | untaint address length =>
      simp [footprint, immediateFault?, Footprint.accesses, Violates]
  | threadExit id =>
      simp [footprint, immediateFault?, Footprint.accesses, Footprint.empty, Violates]

theorem checkAll_eq_some
    {spans : List Span}
    {fault : Fault}
    (violation : extent.checkAll spans = some fault) :
    ∃ span ∈ spans, ¬extent.Maps span ∧ fault = extent.fault span := by
  obtain ⟨span, member, checked⟩ := List.exists_of_findSome?_eq_some violation
  obtain ⟨outside, same⟩ := Extent.check_eq_some_iff.1 checked
  exact ⟨span, member, outside, same.symm⟩

/-- A violation is an access of the event that is not mapped, or two immediates. -/
theorem violation?_eq_some
    {fault : Fault}
    (violation : event.violation? extent config executes = some fault) :
    (∃ span ∈ (event.footprint config executes).accesses,
      ¬extent.Maps span ∧ fault = extent.fault span) ∨
    ∃ left right, fault = .immediateSources left right := by
  rw [violation?, Option.or_eq_some_iff] at violation
  obtain accessed | ⟨-, faulty⟩ := violation
  · exact .inl (checkAll_eq_some accessed)
  · right
    cases event with
    | step id instr context =>
        rw [immediateFault?, Instruction.immediateFault?] at faulty
        split at faulty
        · split at faulty
          · cases faulty
          · exact Operation.immediateFault?_eq_some faulty
        · cases faulty
    | _ => cases faulty

end Event

/-! ## Slots -/

/-- Transferred slots lie where the checked computation of a slot address finds them. -/
theorem BlockTransfer.transferred_checked
    (block : BlockTransfer)
    (exclusion : Exclusion)
    (baseAddress : UInt32) :
    ∀ transferred ∈ block.transferred exclusion baseAddress,
      ∃ slot, block.mode.checkedSlotAddress baseAddress slot block.regs.size =
        .ok transferred.2 := by
  have small := block.regs.size_le
  have total : UInt32.size = 2 ^ 32 := rfl
  have slots : ∀ listed ∈ block.slots baseAddress,
      ∃ slot, block.mode.checkedSlotAddress baseAddress slot block.regs.size =
        .ok listed.2 := by
    intro listed member
    obtain ⟨slot, inside, rfl⟩ := List.mem_mapIdx.1 member
    rw [block.regs.length_toList] at inside
    exact ⟨slot, block.mode.checkedSlotAddress_eq_ok _ _ _ inside (by omega)⟩
  intro transferred member
  exact slots _ ((block.transferred_sublist exclusion baseAddress).mem member)

/-! ## Events -/

/-- An event faults exactly if it violates its contract, which no label decides; the
fault names an access that is not mapped or two immediate sources, and nothing else. -/
theorem Analysis.apply_faults_iff_violates
    (analysis : Analysis)
    (replay : Replay)
    (event : Event) :
    ((∃ fault, (analysis.apply replay event).result = .error fault) ↔
      event.Violates replay.memory.extent analysis.config (replay.executes event)) ∧
    (∀ fault, (analysis.apply replay event).result = .error fault ->
      (∃ span ∈ (event.footprint analysis.config (replay.executes event)).accesses,
        ¬replay.memory.extent.Maps span ∧ fault = replay.memory.extent.fault span) ∨
      ∃ left right, fault = .immediateSources left right) ∧
    (∀ other : Replay, other.memory.extent = replay.memory.extent ->
      other.executes event = replay.executes event ->
      (analysis.apply other event).result = (analysis.apply replay event).result) ∧
    ∀ (block : BlockTransfer) (baseAddress : UInt32),
      ∀ transferred ∈ block.transferred analysis.config.exclusion baseAddress,
        ∃ slot, block.mode.checkedSlotAddress baseAddress slot block.regs.size =
          .ok transferred.2 := by
  have result (replay : Replay) := (analysis.apply_meets replay event).result_eq
  have faults (fault : Fault) : (analysis.apply replay event).result = .error fault ↔
      event.violation? replay.memory.extent analysis.config (replay.executes event) =
        some fault := by
    rw [result]
    cases event.violation? replay.memory.extent analysis.config (replay.executes event) <;> simp
  refine ⟨?violates, ?named, ?independent, ?slots⟩
  case violates =>
    rw [← Event.violates_iff]
    exact exists_congr faults
  case named =>
    intro fault failed
    exact Event.violation?_eq_some ((faults fault).1 failed)
  case independent =>
    intro other extent executes
    rw [result, result, extent, executes]
  case slots =>
    intro block baseAddress
    exact block.transferred_checked _ baseAddress

end ShadowTaint
