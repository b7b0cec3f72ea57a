import ShadowTaint.Encoding.Report
import ShadowTaint.Proofs.Sinks.Notes
import ShadowTaint.Proofs.Trace.ProgramCounter

/-!
# Tainted jumps

The report of a replay lists the steps whose own rule moves tainted data onto the program
counter, each with the taint that the rule computes from the state before the step. That
no older taint is taken for a jump rests on the program counters being clean between
events. Products and base updates that reach the program counter are not looked at, so
taint that they move there is not reported.
-/

namespace ShadowTaint

variable {config : AnalysisConfig} {context : Context} {instr : Instruction}

/-! ## Transfers to the program counter -/

namespace Operation

/-- The taint of the value that an operation transfers to the program counter, from the
state before it. Of a pair the second register prevails, and a block transfers no more
than the slots that its base register leaves. -/
def transfer?
    (config : AnalysisConfig)
    (context : Context)
    (before : Snapshot) : Operation -> Option Lanes
  | branch _ target => if target.isImmediate then none else some (before.union target.regs)
  | move target source => if target = Reg.pc then some (before.union source.regs) else none
  | extract target source => if target = Reg.pc then some (before.taint source) else none
  | arithmetic target left right =>
      if target = Reg.pc then some (before.union (left.regs ++ right.regs)) else none
  | load width target mem =>
      if target = Reg.pc then
        some ((before.loaded (mem.address context) width).union (mem.indexTaint config before))
      else none
  | loadDual first second mem =>
      if second = Reg.pc then
        some ((before.loaded (mem.address context + 4) .word).union
          (mem.indexTaint config before))
      else if first = Reg.pc then
        some ((before.loaded (mem.address context) .word).union (mem.indexTaint config before))
      else none
  | loadMultiple block =>
      ((block.transferred config.exclusion (context.value block.base)).lookup Reg.pc).map
        fun address => before.loaded address .word
  | constant _ | multiplyAccumulate _ _ _ _ | multiplyLong _ _ _ _
  | multiplyAccumulateLong _ _ _ _ | store _ _ _ _ | storeDual _ _ _ _ | storeMultiple _
  | inert | unsupported _ => none

end Operation

namespace Instruction

/-- Vector instructions and those that compute zero transfer nothing. -/
def transfer?
    (config : AnalysisConfig)
    (context : Context)
    (instr : Instruction)
    (before : Snapshot) : Option Lanes :=
  if instr.opcode.isSimd || instr.zeroingTarget?.isSome then none
  else instr.operation.transfer? config context before

/-- The jump of an instruction that transfers tainted data to the program counter. -/
def jump?
    (config : AnalysisConfig)
    (context : Context)
    (instr : Instruction)
    (before : Snapshot) : Option TaintedJump :=
  match instr.transfer? config context before with
  | some taint => if taint.isTainted then some ⟨instr.pc, instr.opcode, taint⟩ else none
  | none => none

end Instruction

/-- The jump that the report lists for an event, if any: that of a step whose instruction
was executed. -/
def Meeting.jump? (analysis : Analysis) (meeting : Meeting) : Option TaintedJump :=
  match meeting.event with
  | .step id instr context =>
      match analysis.outcome? meeting.replay (.step id instr context) with
      | some (.ok .executed) =>
          instr.jump? analysis.config context (meeting.replay.view id).snapshot
      | _ => none
  | .callEntry _ _ _ | .callReturn _ _ | .taint _ _ _ | .untaint _ _ | .threadExit _ => none

/-- What assignments leave on a clean program counter. -/
def pcTaint (assignments : List (Reg × Lanes)) : Lanes :=
  (assignments.lookup Reg.pc).getD Lanes.clean

@[simp] theorem pcTaint_nil : pcTaint [] = Lanes.clean := rfl

@[simp] theorem pcTaint_cons (target : Reg) (taint : Lanes) (rest : List (Reg × Lanes)) :
    pcTaint ((target, taint) :: rest) = if target = Reg.pc then taint else pcTaint rest := by
  rw [pcTaint, List.lookup_cons]
  by_cases onPc : target = Reg.pc
  · rw [onPc, beq_self_eq_true, if_pos rfl]
    rfl
  · rw [beq_false_of_ne (Ne.symm onPc), if_neg onPc]
    rfl

namespace BlockTransfer

theorem lookup_transferred_of_not_listed
    {block : BlockTransfer}
    {reg : Reg}
    (unlisted : block.regs.contains reg = false)
    (exclusion : Exclusion)
    (baseAddress : UInt32) :
    (block.transferred exclusion baseAddress).lookup reg = none := by
  rw [List.lookup_eq_none_iff]
  intro slot moved
  have listed : slot.1 ∈ (block.slots baseAddress).map Prod.fst :=
    List.mem_map_of_mem ((block.transferred_sublist _ _).mem moved)
  rw [slots_regs, RegList.mem_toList] at listed
  rw [bne_iff_ne]
  rintro rfl
  rw [unlisted] at listed
  cases listed

end BlockTransfer

theorem Snapshot.pcTaint_slotLoads (before : Snapshot) (slots : List (Reg × UInt32)) :
    pcTaint (before.slotLoads slots) =
      ((slots.lookup Reg.pc).map fun address => before.loaded address .word).getD
        Lanes.clean := by
  induction slots with
  | nil => rfl
  | cons slot rest inductionHypothesis =>
      rw [slotLoads, List.map_cons, pcTaint_cons, List.lookup_cons]
      by_cases onPc : slot.1 = Reg.pc
      · rw [if_pos onPc, onPc, beq_self_eq_true]
        rfl
      · rw [if_neg onPc, beq_false_of_ne (Ne.symm onPc)]
        exact inductionHypothesis

/-- What is looked at after an operation is what it transferred, if it may transfer
anything. -/
theorem Operation.getD_transfer?
    (config : AnalysisConfig)
    (opcode : Opcode)
    (context : Context)
    (before : Snapshot)
    (operation : Operation) :
    (operation.transfer? config context before).getD Lanes.clean =
      if operation.writesPc then pcTaint (operation.assignments config opcode context before)
      else Lanes.clean := by
  cases operation with
  | move target source | extract target source | arithmetic target left right
  | load width target mem =>
      by_cases onPc : target = Reg.pc <;> simp [transfer?, writesPc, assignments, onPc]
  | loadDual first second mem =>
      by_cases firstOnPc : first = Reg.pc <;> by_cases secondOnPc : second = Reg.pc <;>
        simp [transfer?, writesPc, assignments, firstOnPc, secondOnPc]
  | branch link target =>
      cases immediate : target.isImmediate <;>
        simp [transfer?, writesPc, assignments, immediate]
  | loadMultiple block =>
      rw [transfer?, writesPc, assignments, Snapshot.pcTaint_slotLoads]
      cases listed : block.regs.contains Reg.pc with
      | true => rw [if_pos rfl]
      | false =>
          rw [BlockTransfer.lookup_transferred_of_not_listed listed, if_neg Bool.false_ne_true]
          rfl
  | constant | multiplyAccumulate | multiplyLong | multiplyAccumulateLong | store | storeDual
  | storeMultiple | inert | unsupported => rfl

namespace Instruction

theorem getD_transfer?
    (config : AnalysisConfig)
    (context : Context)
    (instr : Instruction)
    (before : Snapshot) :
    (instr.transfer? config context before).getD Lanes.clean =
      if instr.operation.writesPc then pcTaint (instr.assignments config context before)
      else Lanes.clean := by
  rw [transfer?, assignments]
  cases instr.opcode.isSimd with
  | true => simp
  | false =>
      rw [Bool.false_or, if_neg Bool.false_ne_true]
      cases instr.zeroingTarget? with
      | some target => simp
      | none =>
          rw [Option.isSome_none, if_neg Bool.false_ne_true]
          exact instr.operation.getD_transfer? config instr.opcode context before

theorem transfer?_of_outcome_ne
    (unhandled : instr.outcome ≠ .executed)
    (config : AnalysisConfig)
    (context : Context)
    (before : Snapshot) :
    instr.transfer? config context before = none := by
  rw [outcome] at unhandled
  rw [transfer?]
  cases simd : instr.opcode.isSimd with
  | true => rfl
  | false =>
      rw [simd, if_neg Bool.false_ne_true] at unhandled
      cases zeroing : instr.zeroingTarget?.isSome with
      | true => rfl
      | false =>
          rw [zeroing, if_neg Bool.false_ne_true] at unhandled
          rw [Bool.or_self, if_neg Bool.false_ne_true]
          cases kind : instr.operation with
          | unsupported => rfl
          | _ =>
              rw [kind] at unhandled
              exact absurd rfl unhandled

variable {shadow after : Shadow} {outcome : StepOutcome}

/-- On a clean program counter an instruction leaves what it assigns to it. -/
theorem pc_execute
    (ran : instr.execute config context shadow = .done after outcome)
    (clean : shadow.registers.get Reg.pc = Lanes.clean) :
    after.registers.get Reg.pc = pcTaint (instr.assignments config context shadow.snapshot) := by
  have left := congrArg (fun snapshot : Snapshot => snapshot.taint Reg.pc) (execute_done ran)
  simp only [Snapshot.update, taint_withNewFrame, Shadow.taint_snapshot, clean] at left
  exact left

/-- What is found after an instruction is its own jump. -/
theorem ofInstruction?_execute
    (ran : instr.execute config context shadow = .done after outcome)
    (clean : shadow.registers.get Reg.pc = Lanes.clean) :
    TaintedJump.ofInstruction? instr after.registers =
      instr.jump? config context shadow.snapshot := by
  have transferred := instr.getD_transfer? config context shadow.snapshot
  rw [← pc_execute ran clean] at transferred
  rw [TaintedJump.ofInstruction?, jump?]
  cases writes : instr.operation.writesPc with
  | false =>
      rw [writes, if_neg Bool.false_ne_true] at transferred
      cases moved : instr.transfer? config context shadow.snapshot with
      | none => rfl
      | some taint =>
          rw [moved, Option.getD_some] at transferred
          rw [transferred]
          rfl
  | true =>
      rw [writes, if_pos rfl] at transferred
      rw [← transferred]
      cases instr.transfer? config context shadow.snapshot with
      | none => rfl
      | some taint => rfl

end Instruction

/-! ## What the report lists -/

theorem Instruction.jump?_eq_some_iff {before : Snapshot} {jump : TaintedJump} :
    instr.jump? config context before = some jump ↔
      ∃ taint, instr.opcode.isSimd = false ∧ instr.zeroingTarget? = none ∧
        instr.operation.transfer? config context before = some taint ∧
        taint.isTainted = true ∧ jump = ⟨instr.pc, instr.opcode, taint⟩ := by
  rw [jump?, transfer?]
  cases instr.opcode.isSimd with
  | true => simp
  | false =>
      cases instr.zeroingTarget? with
      | some target => simp
      | none =>
          cases instr.operation.transfer? config context before with
          | none => simp
          | some taint => simp [@eq_comm _ jump]

theorem Meeting.jump?_eq_some_iff
    {analysis : Analysis}
    {meeting : Meeting}
    {jump : TaintedJump} :
    meeting.jump? analysis = some jump ↔
      ∃ id instr context, meeting.event = .step id instr context ∧
        analysis.outcome? meeting.replay meeting.event = some (.ok .executed) ∧
        instr.jump? analysis.config context (meeting.replay.view id).snapshot = some jump := by
  obtain ⟨replay, event⟩ := meeting
  cases event with
  | step id instr context =>
      rw [jump?]
      dsimp only
      constructor
      · intro own
        split at own
        · rename_i executed
          exact ⟨id, instr, context, rfl, executed, own⟩
        · cases own
      · rintro ⟨_, _, _, same, executed, own⟩
        cases same
        rw [executed]
        exact own
  | callEntry | callReturn | taint | untaint | threadExit => simp [jump?]

namespace Analysis

/-- What is found after the rule of an instruction is added to what was found before. -/
theorem jumps_step_of_done
    {focus : Focus}
    {after : Shadow}
    {outcome : StepOutcome}
    (executes : (focus.thread.arrive instr context).executes instr = true)
    (analysis : Analysis)
    (ran : instr.execute analysis.config context ⟨focus.thread.registers, focus.memory⟩ =
      .done after outcome) :
    (analysis.step instr context focus).state.findings.jumps.toList =
      focus.findings.jumps.toList ++
        (TaintedJump.ofInstruction? instr after.registers).toList := by
  rw [step, Watched.findings_step_of_executes executes, ran]
  exact Array.toList_appendList

/-- A step adds the jump of its instruction if it was executed. -/
theorem jumps_step
    {focus : Focus}
    (clean : focus.thread.registers.get Reg.pc = Lanes.clean)
    (analysis : Analysis)
    (instr : Instruction)
    (context : Context) :
    (analysis.step instr context focus).state.findings.jumps.toList =
      focus.findings.jumps.toList ++
        match (analysis.step instr context focus).result with
        | .ok .executed => (instr.jump? analysis.config context focus.snapshot).toList
        | _ => [] := by
  have same : focus.snapshot = (Shadow.mk focus.thread.registers focus.memory).snapshot := rfl
  cases executes : (focus.thread.arrive instr context).executes instr with
  | false =>
      rw [step, Watched.step_of_not_executes executes]
      exact (List.append_nil _).symm
  | true =>
      have result : (analysis.step instr context focus).result =
          (instr.execute analysis.config context
            ⟨focus.thread.registers, focus.memory⟩).result :=
        Watched.result_step_of_executes executes Observer.sinks analysis.config
      cases ran : instr.execute analysis.config context
        ⟨focus.thread.registers, focus.memory⟩ with
      | mk after reached =>
          rw [result, ran]
          cases reached with
          | error fault =>
              rw [step, Watched.findings_step_of_executes executes, ran]
              exact (List.append_nil _).symm
          | ok outcome =>
              rw [jumps_step_of_done executes analysis ran,
                Instruction.ofInstruction?_execute ran clean, same]
              cases outcome with
              | executed => rfl
              | skipped | unhandled =>
                  have other := Instruction.execute_outcome ran
                  rw [Instruction.jump?, Instruction.transfer?_of_outcome_ne (by simp [← other])]
                  rfl

/-- An event adds its own jump. -/
theorem jumps_apply
    {replay : Replay}
    (clean : replay.PcClean)
    (analysis : Analysis)
    (event : Event) :
    (analysis.apply replay event).state.findings.jumps.toList =
      replay.findings.jumps.toList ++ (Meeting.jump? analysis ⟨replay, event⟩).toList := by
  cases isStep : event.isStep with
  | false =>
      obtain ⟨bytes, added⟩ := analysis.findings_apply_of_not_step isStep replay
      have none : Meeting.jump? analysis ⟨replay, event⟩ = none := by
        cases event with
        | step => cases isStep
        | callEntry | callReturn | taint | untaint | threadExit => rfl
      rw [added, none, Option.toList_none, List.append_nil]
      rfl
  | true =>
      cases event with
      | step id instr context =>
          have own : analysis.outcome? replay (.step id instr context) =
              some (analysis.step instr context (replay.view id)).result := rfl
          rw [findings_apply_step, jumps_step (clean.view id), Replay.findings_view,
            Meeting.jump?]
          dsimp only
          rw [own]
          generalize (analysis.step instr context (replay.view id)).result = result
          cases result with
          | error fault => rfl
          | ok outcome => cases outcome <;> rfl
      | callEntry | callReturn | taint | untaint | threadExit => cases isStep

theorem jumps_applyAll
    {replay : Replay}
    (clean : replay.PcClean)
    (analysis : Analysis)
    (events : List Event) :
    (analysis.applyAll replay events).state.findings.jumps.toList =
      replay.findings.jumps.toList ++
        (analysis.meetings replay events).filterMap (Meeting.jump? analysis) := by
  rw [List.filterMap_eq_flatMap_toList]
  exact applyAll_notes Replay.PcClean (fun _ event clean => apply_pcClean clean event)
    (fun findings => findings.jumps.toList) (fun meeting => (meeting.jump? analysis).toList)
    (fun _ event clean => jumps_apply clean analysis event) clean events

/-- The report lists the jump of every step that executes and transfers tainted data to
the program counter, in the order of the trace, and nothing else. Every entry has the taint
that the instruction itself transfers, computed from the state before it. -/
theorem jumps_report
    (analysis : Analysis)
    (memory : Memory)
    (events : List Event) :
    let meetings := analysis.meetings (.start memory) events
    let reached := analysis.applyAll (.start memory) events
    (meetings.map Meeting.event <+: events ∧
      (reached.result = .ok () -> meetings.map Meeting.event = events)) ∧
    reached.state.report.jumps = meetings.filterMap (Meeting.jump? analysis) ∧
    ∀ jump ∈ reached.state.report.jumps, ∃ meeting ∈ meetings, ∃ id instr context taint,
      meeting.event = .step id instr context ∧
      analysis.outcome? meeting.replay meeting.event = some (.ok .executed) ∧
      instr.opcode.isSimd = false ∧
      instr.zeroingTarget? = none ∧
      instr.operation.transfer? analysis.config context (meeting.replay.view id).snapshot =
        some taint ∧
      taint.isTainted = true ∧
      jump = ⟨instr.pc, instr.opcode, taint⟩ := by
  intro meetings reached
  have listed : reached.state.report.jumps = meetings.filterMap (Meeting.jump? analysis) :=
    jumps_applyAll (.start memory) analysis events
  refine ⟨analysis.event_meetings _ events, listed, ?own⟩
  case own =>
    intro jump member
    rw [listed] at member
    obtain ⟨meeting, met, own⟩ := List.mem_filterMap.1 member
    obtain ⟨id, instr, context, isStep, executed, jumps⟩ := Meeting.jump?_eq_some_iff.1 own
    obtain ⟨taint, integral, noZeroing, transferred, tainted, rfl⟩ :=
      Instruction.jump?_eq_some_iff.1 jumps
    exact ⟨meeting, met, id, instr, context, taint, isStep, executed, integral, noZeroing,
      transferred, tainted, rfl⟩

end Analysis

/-! ## What is not looked at -/

/-- The base register is the program counter, and is updated by an index register. -/
def MemRef.updatesPc (mem : MemRef) : Bool :=
  mem.mode.writesBack && mem.index.isSome && mem.base == Reg.pc

/-- The ways onto the program counter that are not looked at: it receives a product, or it
is the base register that a load or store updates and does not load. -/
def Operation.writesPcUnseen : Operation -> Bool
  | multiplyAccumulate target _ _ _ => target == Reg.pc
  | multiplyLong low high _ _ | multiplyAccumulateLong low high _ _ =>
      low == Reg.pc || high == Reg.pc
  | load _ target mem => mem.updatesPc && target != Reg.pc
  | loadDual first second mem => mem.updatesPc && first != Reg.pc && second != Reg.pc
  | store _ _ mem _ | storeDual _ _ mem _ => mem.updatesPc
  | move _ _ | constant _ | extract _ _ | arithmetic _ _ _ | branch _ _ | loadMultiple _
  | storeMultiple _ | inert | unsupported _ => false

theorem MemRef.pcTaint_baseAssignment
    {mem : MemRef}
    (kept : mem.updatesPc = false)
    (before : Snapshot) :
    pcTaint (mem.baseAssignment before) = Lanes.clean := by
  rw [updatesPc] at kept
  rw [baseAssignment]
  cases writes : mem.mode.writesBack with
  | false => rfl
  | true =>
      cases indexed : mem.index with
      | none => rfl
      | some index =>
          rw [writes, indexed] at kept
          have apart : mem.base ≠ Reg.pc := by simpa using kept
          dsimp only
          rw [pcTaint_cons, if_neg apart, pcTaint_nil]

/-- A status register receives no taint. -/
theorem MemRef.pcTaint_statusAssignment
    {rest : List (Reg × Lanes)}
    (config : AnalysisConfig)
    (status : Option Reg)
    (clean : pcTaint rest = Lanes.clean) :
    pcTaint (statusAssignment config status ++ rest) = Lanes.clean := by
  cases status with
  | none => exact clean
  | some reg =>
      rw [statusAssignment]
      split
      · simp [clean]
      · exact clean

namespace Operation

theorem writesPc_of_unseen
    {operation : Operation}
    (unseen : operation.writesPcUnseen = true) :
    operation.writesPc = false := by
  cases operation <;> simp_all [writesPcUnseen, writesPc]

/-- There is no other way onto the program counter than those that are looked at and
those that are not. -/
theorem pcTaint_assignments
    {operation : Operation}
    {before : Snapshot}
    (clean : before.taint Reg.pc = Lanes.clean)
    (unwritten : operation.writesPc = false)
    (unseen : operation.writesPcUnseen = false)
    (config : AnalysisConfig)
    (opcode : Opcode)
    (context : Context) :
    pcTaint (operation.assignments config opcode context before) = Lanes.clean := by
  cases operation with
  | move target source | extract target source | arithmetic target left right =>
      rw [writesPc, beq_eq_false_iff_ne] at unwritten
      rw [assignments, pcTaint_cons, if_neg unwritten, pcTaint_nil]
  | multiplyAccumulate target left right accumulator =>
      rw [writesPcUnseen, beq_eq_false_iff_ne] at unseen
      rw [assignments, pcTaint_cons, if_neg unseen, pcTaint_nil]
  | multiplyLong low high left right | multiplyAccumulateLong low high left right =>
      rw [writesPcUnseen, Bool.or_eq_false_iff, beq_eq_false_iff_ne, beq_eq_false_iff_ne] at unseen
      rw [assignments, pcTaint_cons, if_neg unseen.2, pcTaint_cons, if_neg unseen.1, pcTaint_nil]
  | constant target =>
      rw [assignments, pcTaint_cons, pcTaint_nil]
      split
      · rename_i onPc
        rw [onPc, clean, Lanes.truncate_clean, ite_self]
      · rfl
  | load width target mem =>
      rw [writesPc, beq_eq_false_iff_ne] at unwritten
      have kept : mem.updatesPc = false := by simpa [writesPcUnseen, unwritten] using unseen
      rw [assignments, pcTaint_cons, if_neg unwritten, MemRef.pcTaint_baseAssignment kept]
  | loadDual first second mem =>
      rw [writesPc, Bool.or_eq_false_iff, beq_eq_false_iff_ne, beq_eq_false_iff_ne] at unwritten
      have kept : mem.updatesPc = false := by simpa [writesPcUnseen, unwritten] using unseen
      rw [assignments, pcTaint_cons, if_neg unwritten.2, pcTaint_cons, if_neg unwritten.1,
        MemRef.pcTaint_baseAssignment kept]
  | store width source mem status | storeDual low high mem status =>
      exact MemRef.pcTaint_statusAssignment config status
        (MemRef.pcTaint_baseAssignment unseen before)
  | branch link target =>
      have immediate : target.isImmediate = true := by simpa [writesPc] using unwritten
      have apart : Reg.lr ≠ Reg.pc := by decide
      cases link <;> simp [assignments, immediate, apart]
  | loadMultiple block =>
      rw [assignments, Snapshot.pcTaint_slotLoads,
        BlockTransfer.lookup_transferred_of_not_listed unwritten]
      rfl
  | storeMultiple | inert | unsupported => rfl

end Operation

/-- An instruction that leaves taint on a clean program counter is either looked at or one
of those that are not. -/
theorem Instruction.writesPc_of_tainted
    {before : Snapshot}
    (tainted : (pcTaint (instr.assignments config context before)).isTainted = true)
    (clean : before.taint Reg.pc = Lanes.clean) :
    instr.operation.writesPc = !instr.operation.writesPcUnseen := by
  cases unseen : instr.operation.writesPcUnseen with
  | true => exact Operation.writesPc_of_unseen unseen
  | false =>
      cases writes : instr.operation.writesPc with
      | true => rfl
      | false =>
          have untainted : pcTaint (instr.assignments config context before) = Lanes.clean := by
            rw [assignments]
            split
            · rfl
            · split
              · simp
              · exact Operation.pcTaint_assignments clean writes unseen ..
          rw [untainted] at tainted
          cases tainted

namespace Analysis

/-- A step that leaves taint on the program counter before it is cleaned adds one jump with
this taint, unless it is a product or a base update that reached the program counter. -/
theorem jump_of_tainted_pc
    (analysis : Analysis)
    (memory : Memory)
    (past : List Event)
    (id : UInt32)
    (instr : Instruction)
    (context : Context)
    (after : Shadow)
    (outcome : StepOutcome)
    (ran : (analysis.applyAll (Replay.start memory) past).result = .ok ())
    (executes : (analysis.applyAll (Replay.start memory) past).state.executes
      (Event.step id instr context) = true)
    (ruled : instr.execute analysis.config context
      ⟨((analysis.applyAll (Replay.start memory) past).state.view id).thread.registers,
        (analysis.applyAll (Replay.start memory) past).state.memory⟩ = .done after outcome)
    (tainted : (after.registers.get Reg.pc).isTainted = true) :
    (analysis.applyAll (Replay.start memory)
        (past ++ [Event.step id instr context])).state.report.jumps =
      (analysis.applyAll (Replay.start memory) past).state.report.jumps ++
        if instr.operation.writesPcUnseen then []
        else [⟨instr.pc, instr.opcode, after.registers.get Reg.pc⟩] := by
  have clean := (applyAll_pcClean ran).view id
  rw [applyAll_concat]
  generalize analysis.applyAll (Replay.start memory) past = reached at ran executes ruled clean
  obtain ⟨replay, result⟩ := reached
  cases ran
  have writes : instr.operation.writesPc = !instr.operation.writesPcUnseen := by
    rw [Instruction.pc_execute ruled clean] at tainted
    exact Instruction.writesPc_of_tainted tainted clean
  have found : TaintedJump.ofInstruction? instr after.registers =
      if instr.operation.writesPcUnseen then none
      else some ⟨instr.pc, instr.opcode, after.registers.get Reg.pc⟩ := by
    rw [TaintedJump.ofInstruction?, writes, tainted]
    cases instr.operation.writesPcUnseen <;> rfl
  show (analysis.apply replay (.step id instr context)).state.findings.jumps.toList = _
  rw [← replay.memory_view id] at ruled
  rw [findings_apply_step, jumps_step_of_done executes analysis ruled, found,
    Replay.findings_view]
  cases instr.operation.writesPcUnseen <;> rfl

/-- A word is loaded from tainted memory into the program counter. -/
theorem jump_of_tainted_pc_load :
    let load : Instruction :=
      ⟨0, .ldr, none, .load .word Reg.pc ⟨⟨2⟩, none, 0, false, 0, .offset⟩⟩
    let analysis : Analysis := ⟨AnalysisConfig.standard, [], 1⟩
    let memory : Memory := ⟨0, 16, #[none], by decide, by decide⟩
    let past : List Event := [.taint 0 4 (some 3)]
    (analysis.applyAll (Replay.start memory)
        (past ++ [Event.step 1 load Context.zero])).state.report.jumps =
      [⟨0, .ldr, Lanes.splat 3⟩] := by
  intro load analysis memory past
  let replay := (analysis.applyAll (Replay.start memory) past).state
  let ruled := load.execute analysis.config Context.zero
    ⟨(replay.view 1).thread.registers, replay.memory⟩
  have onPc : ruled.state.registers.get Reg.pc = Lanes.splat 3 := by decide +kernel
  have none : replay.report.jumps = [] := by decide +kernel
  rw [jump_of_tainted_pc analysis memory past 1 load Context.zero ruled.state .executed
    (by decide +kernel) (by decide +kernel) (Reached.eq_done (by decide +kernel))
    (by rw [onPc]; rfl), onPc, none]
  rfl

/-- A tainted product reaches the program counter, but no jump is reported. -/
theorem no_jump_of_tainted_product :
    let load : Instruction := ⟨0, .ldr, none, .load .word ⟨1⟩ ⟨⟨2⟩, none, 0, false, 0, .offset⟩⟩
    let product : Instruction := ⟨4, .mla, none, .multiplyAccumulate Reg.pc ⟨1⟩ ⟨3⟩ ⟨4⟩⟩
    let analysis : Analysis := ⟨AnalysisConfig.standard, [], 1⟩
    let memory : Memory := ⟨0, 16, #[none], by decide, by decide⟩
    let past : List Event := [.taint 0 4 (some 3), .step 1 load Context.zero]
    let replay := (analysis.applyAll (Replay.start memory) past).state
    let ruled := product.execute analysis.config Context.zero
      ⟨(replay.view 1).thread.registers, replay.memory⟩
    (analysis.applyAll (Replay.start memory) past).result = .ok () ∧
      replay.executes (.step 1 product Context.zero) = true ∧
      ruled.result = .ok .executed ∧
      ruled.state.registers.get Reg.pc = Lanes.splat 3 ∧
      (analysis.applyAll (Replay.start memory)
        (past ++ [Event.step 1 product Context.zero])).state.report.jumps = [] := by
  decide +kernel

end Analysis
end ShadowTaint
