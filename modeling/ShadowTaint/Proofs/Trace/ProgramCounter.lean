import Mathlib.Data.List.Induction
import ShadowTaint.Proofs.Order.Effects

/-!
# The program counter between events

To the taint rules the program counter is a register like any other: loads, transfers,
arithmetic and base updates may all taint it. A step cleans it when its instruction is
done, and nothing but a step writes it. So between events every live thread has a clean
program counter. A link copies the program counter, hence it copies no taint, while an
observer still sees there the taint that the target of the branch had before.
-/

namespace ShadowTaint

variable {config : AnalysisConfig} {instr : Instruction} {context : Context}

/-! ## Linking branches -/

namespace Operation

theorem lr_branch (target : Operand) (shadow : Shadow) :
    (propagateBranch true target shadow).registers.get Reg.lr =
      shadow.registers.get Reg.pc := by
  have apart : Reg.lr ≠ Reg.pc := by decide
  unfold propagateBranch
  cases target.isImmediate <;> simp [apart]

/-- The taint of the target is read before the link register changes. -/
theorem pc_branch
    (target : Operand)
    (shadow : Shadow)
    (clean : shadow.registers.get Reg.pc = Lanes.clean) :
    (propagateBranch true target shadow).registers.get Reg.pc =
      shadow.registers.operand target := by
  unfold propagateBranch
  cases immediate : target.isImmediate with
  | false => simp
  | true =>
      have apart : Reg.pc ≠ Reg.lr := by decide
      have noRegs := Operand.regs_eq_nil_iff.2 immediate
      simp [apart, clean, RegisterFile.operand, noRegs]

end Operation

/-- A branch is a tainted jump exactly if its target is tainted. -/
theorem TaintedJump.ofInstruction?_branch
    {link : Bool}
    {target : Operand}
    {before seen : RegisterFile}
    (branches : instr.operation = .branch link target)
    (moved : seen.get Reg.pc = before.operand target) :
    ofInstruction? instr seen =
      if (before.operand target).isTainted then
        some ⟨instr.pc, instr.opcode, before.operand target⟩
      else none := by
  rw [ofInstruction?, branches, Operation.writesPc, moved]
  cases immediate : target.isImmediate with
  | false => simp
  | true =>
      have noRegs := Operand.regs_eq_nil_iff.2 immediate
      simp [RegisterFile.operand, noRegs]

/-- A branch has its own rule, and allocates no frame. -/
theorem Instruction.execute_branch
    {link : Bool}
    {target : Operand}
    (branches : instr.operation = .branch link target)
    (integral : instr.opcode.isSimd = false)
    (shadow : Shadow) :
    instr.execute config context shadow =
      .done (Operation.propagateBranch link target shadow) .executed := by
  have noFrame : instr.allocatedFrame? = none := by
    simp [allocatedFrame?, branches]
  have noZeroing : instr.zeroingTarget? = none := by
    simp [zeroingTarget?, branches]
  have noClearing : instr.clearNewFrame config context shadow = .done shadow () := by
    simp [clearNewFrame, noFrame]
  rw [execute, noClearing, Reached.andThen_done, propagate, integral, noZeroing, branches]
  rfl

namespace Watched

variable {Notes : Type}

/-- An observer looks at the registers that the branch left, with the program counter
not yet cleaned. -/
theorem findings_step_branch
    {link : Bool}
    {target : Operand}
    (branches : instr.operation = .branch link target)
    (integral : instr.opcode.isSimd = false)
    (observer : Observer Notes)
    (config : AnalysisConfig)
    (watched : Watched Notes)
    (executes : (watched.thread.arrive instr context).executes instr = true) :
    (watched.step observer config instr context).state.findings =
      observer.after instr
        (Operation.propagateBranch link target
          ⟨watched.thread.registers, watched.memory⟩).registers
        (observer.before instr watched.thread.registers watched.findings) := by
  rw [step_of_executes executes, act, Instruction.execute_branch branches integral]
  rfl

end Watched

/-! ## Actions -/

namespace Analysis

variable {analysis : Analysis} {focus : Focus}

/-- An instruction that has executed leaves the registers of its rule, but for the
program counter. -/
theorem registers_step
    {outcome : StepOutcome}
    (executes : (focus.thread.arrive instr context).executes instr = true)
    (ran : (analysis.step instr context focus).result = .ok outcome) :
    ∃ after,
      instr.execute analysis.config context ⟨focus.thread.registers, focus.memory⟩ =
        .done after instr.outcome ∧
      (analysis.step instr context focus).state.thread.registers =
        after.registers.set Reg.pc Lanes.clean := by
  obtain ⟨after, executed, done⟩ := step_done executes ran
  refine ⟨after, executed, ?_⟩
  rw [done.thread, Instruction.deed]
  cases instr.outcome <;> rfl

theorem pc_step
    {outcome : StepOutcome}
    (clean : focus.thread.registers.get Reg.pc = Lanes.clean)
    (ran : (analysis.step instr context focus).result = .ok outcome) :
    (analysis.step instr context focus).state.thread.registers.get Reg.pc = Lanes.clean := by
  cases executes : (focus.thread.arrive instr context).executes instr with
  | false =>
      rw [step, Watched.step_of_not_executes executes]
      exact clean
  | true =>
      obtain ⟨after, -, registers⟩ := registers_step executes ran
      rw [registers, RegisterFile.get_set, if_pos rfl]

theorem pc_enterCall (number : UInt32) (arguments : List UInt32) :
    (analysis.enterCall number arguments focus).state.thread.registers.get Reg.pc =
      focus.thread.registers.get Reg.pc := by
  have apart : Reg.pc ≠ Reg.r0 := by decide
  rw [enterCall]
  split
  · split
    · show (focus.thread.registers.set Reg.r0 Lanes.clean).get Reg.pc = _
      rw [RegisterFile.get_set, if_neg apart]
    · rfl
  · rfl

theorem pc_leaveCall
    {call : CallReturn}
    (ran : (analysis.leaveCall call focus).result = .ok ()) :
    (analysis.leaveCall call focus).state.thread.registers.get Reg.pc =
      focus.thread.registers.get Reg.pc := by
  have apart : Reg.pc ≠ Reg.r0 := by decide
  rw [(leaveCall_done ran).thread]
  show (focus.thread.registers.set Reg.r0 Lanes.clean).get Reg.pc = _
  rw [RegisterFile.get_set, if_neg apart]

end Analysis

/-! ## Replays -/

namespace Replay

/-- No live thread has a tainted program counter. -/
def PcClean (replay : Replay) : Prop :=
  ∀ id thread, replay.threads.find? id = some thread ->
    thread.registers.get Reg.pc = Lanes.clean

namespace PcClean

variable {replay : Replay} {id : UInt32}

theorem start (memory : Memory) : (Replay.start memory).PcClean := by
  intro id thread found
  cases found

/-- A thread comes into view with a clean program counter, also when it begins. -/
theorem view (clean : replay.PcClean) (id : UInt32) :
    (replay.view id).thread.registers.get Reg.pc = Lanes.clean := by
  rw [thread_view]
  cases found : replay.threads.find? id with
  | none => exact RegisterFile.get_clean _
  | some thread => exact clean id thread found

/-- It is enough that an action leaves its own thread with a clean program counter. -/
theorem within
    {action : Focus -> Reached Fault Focus Value}
    (clean : replay.PcClean)
    (counts : Statistics -> Value -> Statistics)
    (kept : (action (replay.view id)).state.thread.id = id)
    (acted : (action (replay.view id)).state.thread.registers.get Reg.pc = Lanes.clean) :
    (replay.within id action counts).state.PcClean := by
  intro other thread found
  rw [threads_within kept, ThreadTable.find?_insert, kept] at found
  split at found
  · cases found
    exact acted
  · exact clean other thread found

theorem endThread (clean : replay.PcClean) (id : UInt32) : (replay.endThread id).PcClean := by
  rw [Replay.endThread]
  split
  · intro other thread found
    rw [ThreadTable.find?_erase] at found
    split at found
    · cases found
    · exact clean other thread found
  · exact clean

end PcClean
end Replay

namespace Analysis

variable {analysis : Analysis} {replay : Replay} {memory : Memory} {past : List Event}

/-- Every event that runs to its end keeps the program counters clean. -/
theorem apply_pcClean
    (clean : replay.PcClean)
    (event : Event)
    (ran : (analysis.apply replay event).result = .ok ()) :
    (analysis.apply replay event).state.PcClean := by
  have counted : replay.countEvent.PcClean := clean
  have called : replay.countEvent.countCall.PcClean := clean
  cases event with
  | step id instr context =>
      obtain ⟨outcome, stepped⟩ := Replay.action_ran Replay.countEvent_eq ran
      rw [← replay.view_countEvent] at stepped
      exact counted.within _ (by simp) (pc_step (counted.view id) stepped)
  | callEntry id number arguments =>
      exact called.within _ (by simp) ((pc_enterCall number arguments).trans (called.view id))
  | callReturn id call =>
      obtain ⟨value, returned⟩ := Replay.action_ran Replay.countEvent_eq ran
      rw [← replay.view_countEvent] at returned
      exact counted.within _ (by simp) ((pc_leaveCall returned).trans (counted.view id))
  | taint address length label? | untaint address length =>
      rw [apply, Replay.changeMemory]
      split
      · exact counted
      · exact counted
  | threadExit id => exact counted.endThread id

/-- Along a replay the program counters are clean between events. -/
theorem applyAll_pcClean
    (ran : (analysis.applyAll (Replay.start memory) past).result = .ok ()) :
    (analysis.applyAll (Replay.start memory) past).state.PcClean := by
  induction past using List.reverseRecOn with
  | nil => exact .start memory
  | append_singleton earlier event inductionHypothesis =>
      rw [applyAll_concat] at ran ⊢
      obtain ⟨reached, value, earlierRan, eventRan⟩ :=
        Reached.andThen_eq_done_iff.1 (Reached.eq_done ran)
      rw [earlierRan] at inductionHypothesis ran ⊢
      exact apply_pcClean (inductionHypothesis rfl) event ran

/-- Between the events of a replay no live thread has a tainted program counter. So a
linking branch that executes leaves a clean link register, whatever its target, and what
an observer sees on the program counter is the taint that the target had before. -/
theorem pc_clean_between_events
    (analysis : Analysis)
    (memory : Memory)
    (past : List Event)
    (ran : (analysis.applyAll (Replay.start memory) past).result = .ok ()) :
    let replay := (analysis.applyAll (Replay.start memory) past).state
    (∀ id thread, replay.threads.find? id = some thread ->
      thread.registers.get Reg.pc = Lanes.clean) ∧
    ∀ id instr context target,
      let event := Event.step id instr context
      let before := (replay.view id).thread.registers
      instr.operation = .branch true target ->
      instr.opcode.isSimd = false ->
      analysis.outcome? replay event = some (.ok .executed) ->
        (analysis.apply replay event).result = .ok () ∧
        (analysis.apply replay event).state.taint? id Reg.lr = some Lanes.clean ∧
        ∃ seen : RegisterFile,
          (∀ (Notes : Type) (observer : Observer Notes) (notes : Notes),
            (Watched.step observer analysis.config instr context
                ⟨(replay.view id).thread, replay.memory, notes⟩).state.findings =
              observer.after instr seen (observer.before instr before notes)) ∧
          seen.get Reg.pc = before.operand target ∧
          (target = .register Reg.lr -> seen.get Reg.pc = before.get Reg.lr) ∧
          (analysis.apply replay event).state.findings.jumps = replay.findings.jumps ++
            if (before.operand target).isTainted then
              [TaintedJump.mk instr.pc instr.opcode (before.operand target)]
            else [] := by
  intro replay
  have clean : replay.PcClean := applyAll_pcClean ran
  refine ⟨clean, ?_⟩
  intro id instr context target event before branches integral executed
  have stepped : (analysis.step instr context (replay.view id)).result = .ok .executed :=
    Option.some.inj executed
  have executes : ((replay.view id).thread.arrive instr context).executes instr = true := by
    cases executes : ((replay.view id).thread.arrive instr context).executes instr with
    | true => rfl
    | false =>
        rw [step, Watched.step_of_not_executes executes] at stepped
        cases stepped
  have applied : analysis.apply replay event =
      replay.countEvent.within id (analysis.step instr context) Statistics.countOutcome := rfl
  have viewed : replay.countEvent.view id = replay.view id := replay.view_countEvent id
  have moved := Operation.pc_branch target ⟨before, replay.memory⟩ (clean.view id)
  refine ⟨?result, ?linked, _, ?observed, moved, ?fromLink, ?jumps⟩
  case result =>
    rw [applied, Replay.result_within, viewed, stepped]
    rfl
  case linked =>
    have apart : Reg.lr ≠ Reg.pc := by decide
    have kept : (analysis.step instr context (replay.countEvent.view id)).state.thread.id = id :=
      by simp
    obtain ⟨after, ruled, registers⟩ := registers_step executes stepped
    rw [Instruction.execute_branch branches integral] at ruled
    obtain rfl : Operation.propagateBranch true target _ = after := congrArg Reached.state ruled
    rw [applied, Replay.taint?, Replay.threads_within kept, ThreadTable.find?_insert, kept,
      if_pos rfl, Option.map_some, viewed, registers, RegisterFile.get_set, if_neg apart,
      Operation.lr_branch]
    exact congrArg some (clean.view id)
  case observed =>
    intro Notes observer notes
    exact Watched.findings_step_branch branches integral observer analysis.config
      ⟨(replay.view id).thread, replay.memory, notes⟩ executes
  case fromLink =>
    rintro rfl
    rw [moved, RegisterFile.operand, Operand.regs_register, RegisterFile.union_cons,
      RegisterFile.union_nil, Lanes.union_clean]
  case jumps =>
    have noted := Watched.findings_step_branch branches integral Observer.sinks
      analysis.config (replay.view id) executes
    rw [Replay.memory_view] at noted
    rw [applied, Replay.findings_within, viewed, step, noted, Replay.findings_view]
    show replay.findings.jumps ++ (TaintedJump.ofInstruction? instr _).toList = _
    rw [TaintedJump.ofInstruction?_branch branches moved]
    split <;> rfl

/-- A thread calls through a link register that it has loaded from tainted memory. -/
theorem pc_clean_between_events_blx :
    let load : Operation := .load .word Reg.lr ⟨⟨1⟩, none, 0, false, 0, .offset⟩
    let call : Instruction := ⟨4, .blxInd, none, .branch true (.register Reg.lr)⟩
    let past : List Event := [.taint 0 4 (some 3), .step 1 ⟨0, .ldr, none, load⟩ Context.zero]
    let analysis : Analysis := ⟨AnalysisConfig.standard, [], 1⟩
    let memory : Memory := ⟨0, 16, #[none], by decide, by decide⟩
    let replay := (analysis.applyAll (Replay.start memory) past).state
    let next := (analysis.apply replay (.step 1 call Context.zero)).state
    replay.taint? 1 Reg.lr = some (Lanes.splat 3) ∧
      replay.taint? 1 Reg.pc = some Lanes.clean ∧
      next.taint? 1 Reg.lr = some Lanes.clean ∧
      next.findings.jumps = #[⟨4, .blxInd, Lanes.splat 3⟩] := by
  intro load call past analysis memory replay next
  obtain ⟨clean, links⟩ := pc_clean_between_events analysis memory past (by decide +kernel)
  obtain ⟨-, linked, -, -, -, -, jumps⟩ :=
    links 1 call Context.zero (.register Reg.lr) rfl rfl (by decide +kernel)
  have tainted : replay.taint? 1 Reg.lr = some (Lanes.splat 3) := by decide +kernel
  obtain ⟨thread, found, atLink⟩ := Option.map_eq_some_iff.1 tainted
  refine ⟨tainted, ?_, linked, ?_⟩
  · rw [Replay.taint?, found]
    exact congrArg some (clean 1 thread found)
  · have viewed : (replay.view 1).thread = thread := by
      rw [Replay.thread_view, found, Option.getD_some]
    have target : (replay.view 1).thread.registers.operand (.register Reg.lr) =
        Lanes.splat 3 := by
      rw [viewed, RegisterFile.operand, Operand.regs_register, RegisterFile.union_cons,
        RegisterFile.union_nil, Lanes.union_clean, atLink]
    have none : replay.findings.jumps = #[] := by decide +kernel
    rw [jumps, target, none]
    rfl

end Analysis
end ShadowTaint
