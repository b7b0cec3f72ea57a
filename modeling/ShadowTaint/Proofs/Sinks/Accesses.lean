import ShadowTaint.Encoding.Report
import ShadowTaint.Proofs.Sinks.Notes

/-!
# Tainted accesses

The addresses that a load or store accesses depend on the values of its base register
and of the index register that is added before the access, and on no other. The report
of a replay lists, step by step, which of these registers were tainted as the step was
met, the base register first.
-/

namespace ShadowTaint

/-- What the address of a load or store is computed from. -/
structure Addressing where
  base : Reg
  /-- The register that is scaled and added to the base before the access, if any. -/
  index? : Option Reg
  isStore : Bool
  deriving DecidableEq

/-- A post-indexed operand is addressed by its base register only, any other by its base
and index register. -/
def MemRef.addressing (mem : MemRef) (isStore : Bool) : Addressing :=
  ⟨mem.base, if mem.mode = .postIndexed then none else mem.index, isStore⟩

/-- What a load or store addresses; a block is addressed by its base register. -/
def Operation.addressing? : Operation -> Option Addressing
  | load _ _ mem | loadDual _ _ mem => some (mem.addressing false)
  | store _ _ mem _ | storeDual _ _ mem _ => some (mem.addressing true)
  | loadMultiple block => some ⟨block.base, none, false⟩
  | storeMultiple block => some ⟨block.base, none, true⟩
  | move _ _ | constant _ | extract _ _ | arithmetic _ _ _ | multiplyAccumulate _ _ _ _
  | multiplyLong _ _ _ _ | multiplyAccumulateLong _ _ _ _ | branch _ _ | inert
  | unsupported _ => none

namespace Addressing

/-- The registers that an address is computed from. -/
def regs (addressing : Addressing) : List Reg := addressing.base :: addressing.index?.toList

/-- The entries about an instruction: one for the base register if it is tainted, then
one for the index register if there is one and it is tainted. -/
def entries
    (addressing : Addressing)
    (instr : Instruction)
    (registers : RegisterFile) : List TaintedAccess :=
  let entry (reg : Reg) : List TaintedAccess :=
    if (registers.get reg).isTainted then
      [⟨instr.pc, instr.opcode, reg, registers.get reg, addressing.isStore⟩]
    else []
  entry addressing.base ++
    match addressing.index? with
    | some index => entry index
    | none => []

end Addressing

/-- The accesses that the report lists for an event: those of a step that executes, with
the taint that the registers of its thread have before it. -/
def Meeting.accesses (meeting : Meeting) : List TaintedAccess :=
  match meeting.event with
  | .step id instr context =>
      if meeting.replay.executes (.step id instr context) then
        match instr.operation.addressing? with
        | some addressing =>
            addressing.entries instr (meeting.replay.view id).thread.registers
        | none => []
      else []
  | .callEntry _ _ _ | .callReturn _ _ | .taint _ _ _ | .untaint _ _ | .threadExit _ => []

/-! ## The registers of an address -/

theorem MemRef.regs_addressing (mem : MemRef) (isStore : Bool) :
    (mem.addressing isStore).regs = mem.addressRegs := by
  rw [addressRegs, addressIndex?, addressing]
  cases mem.mode <;> rfl

theorem MemRef.words_congr
    (mem : MemRef)
    {first second : Context}
    (agree : ∀ reg ∈ mem.addressRegs, first.value reg = second.value reg) :
    mem.words first = mem.words second := by
  rw [words, words, mem.address_congr first second agree]

theorem BlockTransfer.words_congr
    (block : BlockTransfer)
    (config : AnalysisConfig)
    {first second : Context}
    (agree : first.value block.base = second.value block.base) :
    block.words config first = block.words config second := by
  rw [words, words, agree]

namespace Operation

/-- The registers that are looked at, and the kind of the access, are those of the
addressing. -/
theorem addressRegs?_eq (operation : Operation) :
    operation.addressRegs? =
      operation.addressing?.map fun addressing => (addressing.regs, addressing.isStore) := by
  cases operation with
  | load width target mem | loadDual first second mem | store width source mem status
  | storeDual first second mem status =>
      rw [addressRegs?, addressing?, Option.map_some, MemRef.regs_addressing]
      rfl
  | loadMultiple block | storeMultiple block => rfl
  | move | constant | extract | arithmetic | multiplyAccumulate | multiplyLong
  | multiplyAccumulateLong | branch | inert | unsupported => rfl

/-- Contexts that agree on the registers of the addressing give the same accesses. -/
theorem footprint_congr
    {operation : Operation}
    {addressing : Addressing}
    {first second : Context}
    (addresses : operation.addressing? = some addressing)
    (agree : ∀ reg ∈ addressing.regs, first.value reg = second.value reg)
    (config : AnalysisConfig) :
    operation.footprint config first = operation.footprint config second := by
  cases operation with
  | load width target mem | store width source mem status =>
      cases addresses
      rw [MemRef.regs_addressing] at agree
      rw [footprint, footprint, mem.address_congr first second agree]
  | loadDual low high mem | storeDual low high mem status =>
      cases addresses
      rw [MemRef.regs_addressing] at agree
      rw [footprint, footprint, mem.words_congr agree]
  | loadMultiple block | storeMultiple block =>
      cases addresses
      have base : first.value block.base = second.value block.base :=
        agree block.base List.mem_cons_self
      rw [footprint, footprint, block.words_congr config base]
  | move | constant | extract | arithmetic | multiplyAccumulate | multiplyLong
  | multiplyAccumulateLong | branch | inert | unsupported => cases addresses

end Operation

/-! ## What the report lists -/

/-- The accesses found for an instruction are the entries of its addressing. -/
theorem TaintedAccess.ofInstruction_eq (instr : Instruction) (registers : RegisterFile) :
    ofInstruction instr registers =
      match instr.operation.addressing? with
      | some addressing => addressing.entries instr registers
      | none => [] := by
  rw [ofInstruction, Operation.addressRegs?_eq]
  cases instr.operation.addressing? with
  | none => rfl
  | some addressing =>
      obtain ⟨base, index?, isStore⟩ := addressing
      have entry (reg : Reg) :
          (check instr isStore registers reg).toList =
            if (registers.get reg).isTainted then
              [⟨instr.pc, instr.opcode, reg, registers.get reg, isStore⟩]
            else [] := by
        rw [check]
        split <;> rfl
      rw [Option.map_some]
      dsimp only
      rw [Addressing.regs, Addressing.entries, List.filterMap_eq_flatMap_toList]
      cases index? <;> simp [entry]

/-- The rule of the instruction changes nothing of what was found before it. -/
theorem Analysis.accesses_step_of_executes
    {instr : Instruction}
    {context : Context}
    {focus : Focus}
    (executes : (focus.thread.arrive instr context).executes instr = true)
    (analysis : Analysis) :
    (analysis.step instr context focus).state.findings.accesses.toList =
      focus.findings.accesses.toList ++
        TaintedAccess.ofInstruction instr focus.thread.registers := by
  rw [step, Watched.findings_step_of_executes executes]
  generalize instr.execute analysis.config context _ = executed
  obtain ⟨after, result⟩ := executed
  cases result <;> exact Array.toList_appendList ..

theorem Analysis.accesses_apply (analysis : Analysis) (replay : Replay) (event : Event) :
    (analysis.apply replay event).state.findings.accesses.toList =
      replay.findings.accesses.toList ++ Meeting.accesses ⟨replay, event⟩ := by
  cases isStep : event.isStep with
  | false =>
      obtain ⟨bytes, added⟩ := analysis.findings_apply_of_not_step isStep replay
      have none : Meeting.accesses ⟨replay, event⟩ = [] := by
        cases event with
        | step => cases isStep
        | callEntry | callReturn | taint | untaint | threadExit => rfl
      rw [added, none, List.append_nil]
      rfl
  | true =>
      cases event with
      | step id instr context =>
          rw [findings_apply_step, Meeting.accesses]
          dsimp only
          cases executes : replay.executes (.step id instr context) with
          | false =>
              rw [step, Watched.step_of_not_executes executes, if_neg Bool.false_ne_true,
                List.append_nil, ← replay.findings_view id]
              rfl
          | true =>
              rw [accesses_step_of_executes executes, TaintedAccess.ofInstruction_eq,
                if_pos rfl, Replay.findings_view]
      | callEntry | callReturn | taint | untaint | threadExit => cases isStep

theorem Analysis.accesses_applyAll
    (analysis : Analysis)
    (replay : Replay)
    (events : List Event) :
    (analysis.applyAll replay events).state.findings.accesses.toList =
      replay.findings.accesses.toList ++
        (analysis.meetings replay events).flatMap Meeting.accesses :=
  applyAll_notes (fun _ => True) (fun _ _ _ _ => True.intro)
    (fun findings => findings.accesses.toList) Meeting.accesses
    (fun replay event _ => analysis.accesses_apply replay event) True.intro events

/-- The report lists the tainted address registers of every step that executes, in the
order of the trace and as they were before the step, and nothing else; the addresses of an
access do not depend on any register that was not looked at. -/
theorem Analysis.accesses_report
    (analysis : Analysis)
    (memory : Memory)
    (events : List Event) :
    ((analysis.meetings (.start memory) events).map Meeting.event <+: events ∧
      ((analysis.applyAll (.start memory) events).result = .ok () ->
        (analysis.meetings (.start memory) events).map Meeting.event = events)) ∧
    (analysis.applyAll (.start memory) events).state.report.accesses =
      (analysis.meetings (.start memory) events).flatMap Meeting.accesses ∧
    ∀ operation addressing, Operation.addressing? operation = some addressing ->
      ∀ config first second,
        (∀ reg ∈ addressing.regs, Context.value first reg = Context.value second reg) ->
        operation.footprint config first = operation.footprint config second := by
  refine ⟨analysis.event_meetings _ events, ?reported, ?sufficient⟩
  case reported => exact analysis.accesses_applyAll (.start memory) events
  case sufficient =>
    intro operation addressing addresses config first second agree
    exact Operation.footprint_congr addresses agree config

/-- A load that overwrites its index is listed with the taint that the index had. -/
example :
    let mem : MemRef := ⟨⟨2⟩, none, 0, false, 0, .offset⟩
    let taints : Instruction := ⟨0, .ldr, none, .load .word ⟨1⟩ mem⟩
    let cleans : Instruction := ⟨4, .ldr, none, .load .word ⟨1⟩ { mem with index := some ⟨1⟩ }⟩
    let config := { AnalysisConfig.standard with addressDependency := false }
    let memory : Memory := ⟨0, 16, #[none], by decide, by decide⟩
    let events : List Event :=
      [.taint 0 4 (some 3), .step 1 taints Context.zero,
        .step 1 cleans (Context.zero.setValue ⟨1⟩ 4)]
    let reached := ((Analysis.mk config [] 1).applyAll (.start memory) events).state
    reached.taint? 1 ⟨1⟩ = some Lanes.clean ∧
      reached.report.accesses = [⟨4, .ldr, ⟨1⟩, Lanes.splat 3, false⟩] := by
  decide +kernel

end ShadowTaint
