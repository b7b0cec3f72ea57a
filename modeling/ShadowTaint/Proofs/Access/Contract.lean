import ShadowTaint.Proofs.Access.Footprint
import ShadowTaint.Proofs.Shadow.Refinement

/-!
# Faults are contract violations

Every part of an event keeps the extent of the memory, and is stopped by the first
violation of its contract or by nothing. Both facts compose along the order in which
the parts run, so the fault of an event is found from its footprint and the extent alone.
No label is looked at, and no other fault can occur.
-/

namespace ShadowTaint

/-- An operation keeps the extent of the memory, and is stopped by a violation. -/
structure Meets
    (memory : State -> Memory)
    (extent : Extent)
    (violation? : Option Fault)
    (reached : Reached Fault State Value) : Prop where
  extent_eq : (memory reached.state).extent = extent
  cause_eq : reached.cause? = violation?

namespace Meets

variable {memory : State -> Memory} {extent : Extent} {violation? : Option Fault}

theorem done
    {state : State}
    (value : Value)
    (kept : (memory state).extent = extent) :
    Meets memory extent none (.done state value) := ⟨kept, rfl⟩

/-- The first violation of two parts counts. -/
theorem andThen
    {second? : Option Fault}
    {reached : Reached Fault State Value}
    {next : State -> Value -> Reached Fault State Other}
    (first : Meets memory extent violation? reached)
    (rest : ∀ state value, (memory state).extent = extent ->
      Meets memory extent second? (next state value)) :
    Meets memory extent (violation?.or second?) (reached.andThen next) := by
  obtain ⟨state, result⟩ := reached
  obtain ⟨kept, rfl⟩ := first
  cases result with
  | ok value => exact rest state value kept
  | error fault => exact ⟨kept, rfl⟩

theorem mapState
    {within : Other -> Memory}
    {change : State -> Other}
    {reached : Reached Fault State Value}
    (meets : Meets memory extent violation? reached)
    (kept : ∀ state, within (change state) = memory state) :
    Meets within extent violation? (reached.mapState change) :=
  ⟨(congrArg Memory.extent (kept _)).trans meets.extent_eq, meets.cause_eq⟩

/-- A part that is followed by nothing that can fault. -/
theorem andThen_done
    {reached : Reached Fault State Value}
    {next : State -> Value -> Reached Fault State Other}
    (first : Meets memory extent violation? reached)
    (rest : ∀ state value, (memory state).extent = extent ->
      Meets memory extent none (next state value)) :
    Meets memory extent violation? (reached.andThen next) := by
  simpa using first.andThen rest

/-- Whether an operation is stopped, and by what. -/
theorem result_eq
    {reached : Reached Fault State Unit}
    (meets : Meets memory extent violation? reached) :
    reached.result = violation?.elim (.ok ()) .error := by
  obtain ⟨state, result⟩ := reached
  obtain ⟨-, rfl⟩ := meets
  cases result <;> rfl

end Meets

/-! ## Memory -/

namespace Memory

variable {memory : Memory} {address length : UInt32} {width : Width}

theorem LeavesMap.meets
    {reached : Reached Fault Memory Unit}
    {map : LabelMap}
    (leaves : LeavesMap reached map)
    (base : map.base = memory.base.toNat)
    (size : map.size = memory.size) :
    Meets id memory.extent none reached := by
  obtain ⟨after, rfl, same⟩ := leaves
  refine ⟨?_, rfl⟩
  rw [extent, extent, ← base, ← size, ← same]
  rfl

theorem storeLanes_meets (memory : Memory) (address : UInt32) (width : Width) (lanes : Lanes) :
    Meets id memory.extent (memory.extent.check ⟨address, width.bytes⟩)
      (memory.storeLanes address width lanes) := by
  rw [Extent.check]
  split
  · rename_i mapped
    exact (storeLanes_ok lanes mapped).meets rfl rfl
  · rename_i outside
    rw [storeLanes_error lanes outside]
    exact ⟨rfl, rfl⟩

theorem storeRange_meets (memory : Memory) (address length : UInt32) (label : UInt8) :
    Meets id memory.extent (memory.extent.check ⟨address, length.toNat⟩)
      (memory.storeRange address length label) := by
  rw [Extent.check]
  split
  · rename_i mapped
    exact (storeRange_ok label mapped).meets rfl rfl
  · rename_i outside
    rw [storeRange_error label outside]
    exact ⟨rfl, rfl⟩

end Memory

/-! ## Rules -/

namespace Shadow

variable {extent : Extent} {shadow : Shadow}

theorem load_meets
    (kept : shadow.memory.extent = extent)
    (address : UInt32)
    (width : Width) :
    Meets Shadow.memory extent (extent.check ⟨address, width.bytes⟩)
      (shadow.load address width) := by
  subst kept
  rw [load, Extent.check]
  split
  · rename_i mapped
    rw [Memory.read_ok mapped]
    exact ⟨rfl, rfl⟩
  · rename_i outside
    rw [Memory.read_error outside]
    exact ⟨rfl, rfl⟩

theorem store_meets
    (kept : shadow.memory.extent = extent)
    (address : UInt32)
    (width : Width)
    (taint : Lanes) :
    Meets Shadow.memory extent (extent.check ⟨address, width.bytes⟩)
      (shadow.store address width taint) := by
  subst kept
  exact (shadow.memory.storeLanes_meets address width taint).mapState fun _ => rfl

theorem fill_meets
    (kept : shadow.memory.extent = extent)
    (address length : UInt32)
    (label : UInt8) :
    Meets Shadow.memory extent (extent.check ⟨address, length.toNat⟩)
      (shadow.fill address length label) := by
  subst kept
  exact (shadow.memory.storeRange_meets address length label).mapState fun _ => rfl

theorem loadSlots_meets
    (kept : shadow.memory.extent = extent)
    (slots : List (Reg × UInt32)) :
    Meets Shadow.memory extent (extent.checkAll (slots.map fun slot => ⟨slot.2, 4⟩))
      (shadow.loadSlots slots) := by
  induction slots generalizing shadow with
  | nil => exact ⟨kept, rfl⟩
  | cons slot rest inductionHypothesis =>
      rw [List.map_cons, Extent.checkAll_cons]
      apply (load_meets kept slot.2 .word).andThen
      intro after taint keptAfter
      exact inductionHypothesis keptAfter

theorem storeSlots_meets
    (kept : shadow.memory.extent = extent)
    (slots : List (Reg × UInt32)) :
    Meets Shadow.memory extent (extent.checkAll (slots.map fun slot => ⟨slot.2, 4⟩))
      (shadow.storeSlots slots) := by
  induction slots generalizing shadow with
  | nil => exact ⟨kept, rfl⟩
  | cons slot rest inductionHypothesis =>
      rw [List.map_cons, Extent.checkAll_cons]
      apply (store_meets kept slot.2 .word _).andThen
      intro after _ keptAfter
      exact inductionHypothesis keptAfter

@[simp] theorem memory_clearStatus
    (config : AnalysisConfig)
    (status : Option Reg)
    (shadow : Shadow) :
    (shadow.clearStatus config status).memory = shadow.memory := by
  unfold clearStatus
  split
  · split <;> rfl
  · rfl

end Shadow

@[simp] theorem MemRef.memory_writeback (mem : MemRef) (shadow : Shadow) :
    (mem.writeback shadow).memory = shadow.memory := by
  unfold writeback
  split
  · split <;> rfl
  · rfl

namespace Operation

variable {extent : Extent} {shadow : Shadow}

@[simp] theorem memory_constant (opcode : Opcode) (target : Reg) (shadow : Shadow) :
    (propagateConstant opcode target shadow).memory = shadow.memory := by
  unfold propagateConstant
  split <;> rfl

@[simp] theorem memory_branch (link : Bool) (target : Operand) (shadow : Shadow) :
    (propagateBranch link target shadow).memory = shadow.memory := by
  unfold propagateBranch
  cases link <;> cases target.isImmediate <;> rfl

theorem arithmetic_meets
    (kept : shadow.memory.extent = extent)
    (target : Reg)
    (left right : Operand) :
    Meets Shadow.memory extent (arithmetic target left right).immediateFault?
      (propagateArithmetic target left right shadow) := by
  cases left with
  | immediate leftValue =>
      cases right with
      | immediate rightValue => exact ⟨kept, rfl⟩
      | _ => exact ⟨kept, rfl⟩
  | _ => exact ⟨kept, rfl⟩

/-- The rule of an operation is stopped by the first access that is not mapped, or by
two immediates. -/
theorem propagate_meets
    (kept : shadow.memory.extent = extent)
    (config : AnalysisConfig)
    (opcode : Opcode)
    (context : Context)
    (operation : Operation) :
    Meets Shadow.memory extent
      ((extent.checkAll (operation.footprint config context).accesses).or
        operation.immediateFault?)
      (operation.propagate config opcode context shadow) := by
  cases operation with
  | load width target mem =>
      simp only [footprint, Footprint.accesses, immediateFault?, List.nil_append,
        Extent.checkAll_singleton]
      apply (Shadow.load_meets kept _ width).andThen
      intro after loaded keptAfter
      exact .done _ (by simpa using keptAfter)
  | loadDual low high mem =>
      simp only [footprint, Footprint.accesses, immediateFault?, List.nil_append,
        MemRef.words, Extent.checkAll_cons, Extent.checkAll_nil, Option.or_none]
      apply (Shadow.load_meets kept _ .word).andThen
      intro middle first keptMiddle
      apply (Shadow.load_meets keptMiddle _ .word).andThen_done
      intro after second keptAfter
      exact .done _ (by simpa using keptAfter)
  | store width source mem status =>
      simp only [footprint, Footprint.accesses, immediateFault?, List.append_nil,
        Extent.checkAll_singleton]
      apply (Shadow.store_meets kept _ width _).andThen
      intro after _ keptAfter
      exact .done _ (by simpa using keptAfter)
  | storeDual low high mem status =>
      simp only [footprint, Footprint.accesses, immediateFault?, List.append_nil,
        MemRef.words, Extent.checkAll_cons, Extent.checkAll_nil, Option.or_none]
      apply (Shadow.store_meets kept _ .word _).andThen
      intro middle _ keptMiddle
      apply (Shadow.store_meets keptMiddle _ .word _).andThen_done
      intro after _ keptAfter
      exact .done _ (by simpa using keptAfter)
  | loadMultiple block =>
      simp only [footprint, Footprint.accesses, immediateFault?, List.nil_append,
        Option.or_none]
      exact Shadow.loadSlots_meets kept _
  | storeMultiple block =>
      simp only [footprint, Footprint.accesses, immediateFault?, List.append_nil,
        Option.or_none]
      exact Shadow.storeSlots_meets kept _
  | arithmetic target left right => exact arithmetic_meets kept target left right
  | constant target => exact .done _ (by simpa using kept)
  | branch link target => exact .done _ (by simpa using kept)
  | _ => exact ⟨kept, rfl⟩

end Operation

namespace Instruction

variable {extent : Extent} {shadow : Shadow}

theorem clearNewFrame_meets
    (kept : shadow.memory.extent = extent)
    (config : AnalysisConfig)
    (context : Context)
    (instr : Instruction) :
    Meets Shadow.memory extent (extent.checkAll (instr.newFrame config context))
      (instr.clearNewFrame config context shadow) := by
  rw [newFrame, clearNewFrame]
  cases config.stackAutoClear with
  | false => exact ⟨kept, rfl⟩
  | true =>
      cases instr.allocatedFrame? with
      | none => exact ⟨kept, rfl⟩
      | some size =>
          dsimp only
          rw [if_pos rfl]
          split
          · rw [Extent.checkAll_singleton]
            exact Shadow.fill_meets kept _ size 0
          · exact ⟨kept, rfl⟩

/-- Computing zero accesses nothing. -/
theorem footprint_of_zeroingTarget?
    {instr : Instruction}
    {target : Reg}
    (zeroing : instr.zeroingTarget? = some target)
    (config : AnalysisConfig)
    (context : Context) :
    instr.operation.footprint config context = .empty ∧
      instr.operation.immediateFault? = none := by
  unfold zeroingTarget? at zeroing
  split at zeroing
  · rename_i isArithmetic
    rw [isArithmetic]
    exact ⟨rfl, rfl⟩
  · cases zeroing

/-- An executing instruction is stopped by its first violation. -/
theorem execute_meets
    (kept : shadow.memory.extent = extent)
    (config : AnalysisConfig)
    (context : Context)
    (instr : Instruction) :
    Meets Shadow.memory extent (instr.violation? extent config context)
      (instr.execute config context shadow) := by
  rw [violation?, immediateFault?, footprint, execute]
  cases simd : instr.opcode.isSimd with
  | true =>
      rw [if_pos rfl, if_pos rfl, Footprint.accesses, List.append_nil]
      apply (clearNewFrame_meets kept config context instr).andThen
      intro framed _ keptFramed
      rw [propagate, simd, if_pos rfl]
      exact ⟨keptFramed, rfl⟩
  | false =>
      rw [if_neg Bool.false_ne_true, if_neg Bool.false_ne_true, Footprint.accesses,
        List.append_assoc, Extent.checkAll_append, Option.or_assoc]
      apply (clearNewFrame_meets kept config context instr).andThen
      intro framed _ keptFramed
      rw [propagate, simd, if_neg Bool.false_ne_true]
      cases zeroing : instr.zeroingTarget? with
      | some target =>
          obtain ⟨noAccess, noFault⟩ := footprint_of_zeroingTarget? zeroing config context
          rw [noAccess, noFault]
          exact ⟨keptFramed, rfl⟩
      | none =>
          apply (instr.operation.propagate_meets keptFramed config _ context).andThen_done
          intro after _ keptAfter
          exact ⟨keptAfter, rfl⟩

end Instruction

/-! ## Occasions in a thread -/

/-- A step is stopped by the first violation of its instruction, if it executes. -/
theorem Watched.step_meets
    {watched : Watched Notes}
    {extent : Extent}
    (kept : watched.memory.extent = extent)
    (observer : Observer Notes)
    (config : AnalysisConfig)
    (instr : Instruction)
    (context : Context) :
    Meets Watched.memory extent
      (if (watched.thread.arrive instr context).executes instr then
        instr.violation? extent config context
      else none)
      (watched.step observer config instr context) := by
  cases executes : (watched.thread.arrive instr context).executes instr with
  | false =>
      rw [step_of_not_executes executes]
      exact ⟨kept, rfl⟩
  | true =>
      rw [step_of_executes executes, if_pos rfl, act]
      have keptBefore : (Shadow.mk (watched.thread.arrive instr context).registers
        watched.memory).memory.extent = extent := kept
      apply Meets.andThen_done
      · apply (Instruction.execute_meets keptBefore config context instr).mapState
        intro _
        rfl
      intro after outcome keptAfter
      exact ⟨keptAfter, rfl⟩

namespace CallReturn

variable {extent : Extent} {shadow : Shadow}

theorem fillBuffers_meets
    (kept : shadow.memory.extent = extent)
    (label : UInt8)
    (buffers : List MemoryArgument) :
    Meets Shadow.memory extent (extent.checkAll (buffers.map MemoryArgument.span))
      (fillBuffers label shadow buffers) := by
  induction buffers generalizing shadow with
  | nil => exact ⟨kept, rfl⟩
  | cons buffer rest inductionHypothesis =>
      rw [List.map_cons, Extent.checkAll_cons]
      apply (Shadow.fill_meets kept _ _ _).andThen
      intro after _ keptAfter
      exact inductionHypothesis keptAfter

end CallReturn

theorem Memory.fill_eq
    (memory : Memory)
    (address length : UInt32)
    (label : UInt8) :
    (∃ after, memory.fill address length label = .ok after ∧ after.extent = memory.extent ∧
      memory.extent.check ⟨address, length.toNat⟩ = none) ∨
    ∃ fault, memory.fill address length label = .error fault ∧
      memory.extent.check ⟨address, length.toNat⟩ = some fault := by
  have meets := memory.storeRange_meets address length label
  rw [fill]
  generalize memory.storeRange address length label = stored at meets
  obtain ⟨after, result⟩ := stored
  obtain ⟨kept, cause⟩ := meets
  cases result with
  | ok => exact .inl ⟨after, rfl, kept, cause.symm⟩
  | error fault => exact .inr ⟨fault, rfl, cause.symm⟩

/-- A request is served unless its range is not mapped. -/
theorem ControlRequest.serve_eq
    (request : ControlRequest)
    (memory : Memory)
    (label : UInt8) :
    (∃ after status, request.serve memory label = .ok (after, status) ∧
      after.extent = memory.extent ∧
      memory.extent.checkAll request.footprint.accesses = none) ∨
    ∃ fault, request.serve memory label = .error fault ∧
      memory.extent.checkAll request.footprint.accesses = some fault := by
  obtain ⟨kind, address, length⟩ := request
  cases kind with
  | taint =>
      simp only [footprint, Footprint.accesses, List.append_nil, Extent.checkAll_singleton, serve]
      obtain ⟨after, filled, kept, allowed⟩ | ⟨fault, failed, violation⟩ :=
        memory.fill_eq address length label
      · exact .inl ⟨after, servedStatus, by rw [filled]; rfl, kept, allowed⟩
      · exact .inr ⟨fault, by rw [failed]; rfl, violation⟩
  | clear =>
      simp only [footprint, Footprint.accesses, List.append_nil, Extent.checkAll_singleton, serve,
        Memory.clean]
      obtain ⟨after, filled, kept, allowed⟩ | ⟨fault, failed, violation⟩ :=
        memory.fill_eq address length 0
      · exact .inl ⟨after, servedStatus, by rw [filled]; rfl, kept, allowed⟩
      · exact .inr ⟨fault, by rw [failed]; rfl, violation⟩
  | query =>
      simp only [footprint, Footprint.accesses, List.nil_append, Extent.checkAll_singleton, serve,
        Extent.check]
      split
      · rename_i mapped
        exact .inl ⟨memory, _, by rw [Memory.isTainted_ok mapped]; rfl, rfl, rfl⟩
      · rename_i outside
        exact .inr ⟨_, by rw [Memory.isTainted_error outside]; rfl, rfl⟩

namespace Analysis

variable {focus : Focus} {extent : Extent}

theorem enterCall_meets
    (kept : focus.memory.extent = extent)
    (analysis : Analysis)
    (number : UInt32)
    (arguments : List UInt32) :
    Meets Watched.memory extent
      (extent.checkAll (((ControlRequest.ofCall? number arguments).map
        ControlRequest.footprint).getD .empty).accesses)
      (analysis.enterCall number arguments focus) := by
  subst kept
  rw [enterCall]
  cases ControlRequest.ofCall? number arguments with
  | none => exact ⟨rfl, rfl⟩
  | some request =>
      dsimp only [Option.map_some, Option.getD_some]
      obtain ⟨after, status, served, kept, allowed⟩ | ⟨fault, failed, violation⟩ :=
        request.serve_eq focus.memory analysis.config.defaultLabel
      · rw [served, allowed]
        exact ⟨kept, rfl⟩
      · rw [failed, violation]
        exact ⟨rfl, rfl⟩

theorem labelInput_meets
    {shadow : Shadow}
    (kept : shadow.memory.extent = extent)
    (analysis : Analysis)
    (call : CallReturn) :
    Meets Shadow.memory extent
      (if analysis.isSource call then
        extent.checkAll (call.outputs.map MemoryArgument.span)
      else none)
      (analysis.labelInput call shadow) := by
  rw [labelInput]
  split
  · exact CallReturn.fillBuffers_meets kept _ _
  · exact ⟨kept, rfl⟩

/-- Labelling the outputs of a source adds no violation to cleaning them. -/
theorem leaveCall_meets
    (kept : focus.memory.extent = extent)
    (analysis : Analysis)
    (call : CallReturn) :
    Meets Watched.memory extent
      (if call.succeeded then extent.checkAll (call.outputs.map MemoryArgument.span) else none)
      (analysis.leaveCall call focus) := by
  have crossed {shadow : Shadow} (kept : shadow.memory.extent = extent) :
      Meets Shadow.memory extent
        (if call.succeeded then extent.checkAll (call.outputs.map MemoryArgument.span) else none)
        ((call.cross shadow).andThen fun shadow _ => analysis.labelInput call shadow) := by
    have keptClean : (shadow.clean Reg.r0).memory.extent = extent := kept
    rw [CallReturn.cross]
    cases succeeded : call.succeeded with
    | false =>
        have noSource : analysis.isSource call = false := by rw [isSource, succeeded]; rfl
        have labelled := labelInput_meets keptClean analysis call
        rw [noSource] at labelled
        exact labelled
    | true =>
        have absorbed (violation? : Option Fault) :
            violation?.or (if analysis.isSource call then violation? else none) = violation? := by
          cases violation? <;> split <;> rfl
        rw [if_pos rfl, if_pos rfl, ← absorbed (extent.checkAll _)]
        apply (CallReturn.fillBuffers_meets keptClean 0 call.outputs).andThen
        intro filled _ keptFilled
        exact labelInput_meets keptFilled analysis call
  rw [leaveCall, Watched.act]
  apply Meets.andThen_done
  · apply Meets.mapState
    · exact crossed kept
    · intro _
      rfl
  · intro after _ keptAfter
    exact ⟨keptAfter, rfl⟩

end Analysis

/-! ## Events -/

namespace Replay

variable {replay : Replay} {extent : Extent} {violation? : Option Fault}

theorem within_meets
    {id : UInt32}
    {action : Focus -> Reached Fault Focus Value}
    (acted : Meets Watched.memory extent violation? (action (replay.view id)))
    (counts : Statistics -> Value -> Statistics) :
    Meets Replay.memory extent violation? (replay.within id action counts) := by
  rw [within_eq]
  apply Meets.andThen_done
  · apply acted.mapState
    intro _
    rfl
  · intro state value kept
    exact ⟨kept, rfl⟩

theorem changeMemory_meets
    (kept : replay.memory.extent = extent)
    (address length : UInt32)
    (label : UInt8) :
    Meets Replay.memory extent (extent.checkAll [⟨address, length.toNat⟩])
      (replay.changeMemory fun memory => memory.fill address length label) := by
  subst kept
  rw [changeMemory, Extent.checkAll_singleton]
  obtain ⟨after, filled, keptAfter, allowed⟩ | ⟨fault, failed, violation⟩ :=
    replay.memory.fill_eq address length label
  · rw [filled, allowed]
    exact ⟨keptAfter, rfl⟩
  · rw [failed, violation]
    exact ⟨rfl, rfl⟩

@[simp] theorem memory_endThread (replay : Replay) (id : UInt32) :
    (replay.endThread id).memory = replay.memory := by
  unfold endThread
  split <;> rfl

end Replay

/-- An event is stopped by the first violation of its contract, or by nothing. -/
theorem Analysis.apply_meets
    (analysis : Analysis)
    (replay : Replay)
    (event : Event) :
    Meets Replay.memory replay.memory.extent
      (event.violation? replay.memory.extent analysis.config (replay.executes event))
      (analysis.apply replay event) := by
  have viewed (id : UInt32) :
      (replay.countEvent.view id).memory.extent = replay.memory.extent := by
    rw [Replay.memory_view]
    rfl
  have kept : replay.countEvent.memory.extent = replay.memory.extent := rfl
  rw [Event.violation?]
  cases event with
  | step id instr context =>
      have stepped : Meets Watched.memory replay.memory.extent _
          (analysis.step instr context (replay.countEvent.view id)) :=
        Watched.step_meets (viewed id) Observer.sinks analysis.config instr context
      rw [apply, Replay.executes, Event.footprint, Event.immediateFault?]
      refine Replay.within_meets ?_ _
      rw [Replay.view_countEvent] at stepped ⊢
      cases executes : ((replay.view id).thread.arrive instr context).executes instr with
      | false => simpa [executes, Footprint.accesses, Footprint.empty] using stepped
      | true => simpa [executes, Instruction.violation?] using stepped
  | callEntry id number arguments =>
      have entered := enterCall_meets (viewed id) analysis number arguments
      rw [← Replay.view_countCall] at entered
      rw [Event.immediateFault?, Option.or_none, apply]
      exact Replay.within_meets entered _
  | callReturn id call =>
      have left := leaveCall_meets (viewed id) analysis call
      rw [Event.immediateFault?, Option.or_none, Event.footprint, apply]
      refine Replay.within_meets ?_ _
      cases succeeded : call.succeeded with
      | false => simpa [succeeded, Footprint.accesses, Footprint.empty] using left
      | true => simpa [succeeded, Footprint.accesses] using left
  | taint address length label? =>
      rw [Event.immediateFault?, Option.or_none]
      exact Replay.changeMemory_meets kept address length _
  | untaint address length =>
      rw [Event.immediateFault?, Option.or_none]
      exact Replay.changeMemory_meets kept address length 0
  | threadExit id => exact ⟨congrArg Memory.extent (Replay.memory_endThread _ id), rfl⟩

end ShadowTaint
