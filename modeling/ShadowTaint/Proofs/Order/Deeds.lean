import ShadowTaint.Proofs.Order.Stores
import ShadowTaint.Proofs.Trace.Totals
import ShadowTaint.Proofs.Trace.View

/-!
# What an action does

An action on a thread in view leaves a thread and a value, adds findings, and stores a
journal of labels: its deed. The deed of an action depends on the thread and on the
labels that its footprint reads, and on nothing else that is in view.
-/

namespace ShadowTaint

/-! ## Journals of calls -/

namespace CallReturn

theorem fillBuffers_stored
    (label : UInt8)
    (shadow : Shadow)
    (buffers : List MemoryArgument) :
    Stored Shadow.memory shadow.memory
      (Span.journalAll label (buffers.map MemoryArgument.span))
      (fillBuffers label shadow buffers) := by
  induction buffers generalizing shadow with
  | nil => exact .done rfl
  | cons buffer rest inductionHypothesis =>
      rw [List.map_cons, Span.journalAll, List.map_cons, Journal.inOrder_cons]
      apply (shadow.fill_stored buffer.address buffer.length label).andThen
      intro after _ _
      exact inductionHypothesis after

theorem registers_fillBuffers
    {label : UInt8}
    {shadow after : Shadow}
    {buffers : List MemoryArgument}
    (ran : fillBuffers label shadow buffers = .done after ()) :
    after.registers = shadow.registers := by
  induction buffers generalizing shadow with
  | nil =>
      cases ran
      rfl
  | cons buffer rest inductionHypothesis =>
      obtain ⟨middle, _, filled, remaining⟩ := Reached.andThen_eq_done_iff.1 ran
      obtain ⟨memory, -, rfl⟩ := Reached.mapState_eq_done_iff.1 filled
      have kept := inductionHypothesis remaining
      exact kept

/-- After success the outputs have been cleaned. -/
theorem cross_stored (call : CallReturn) (shadow : Shadow) :
    Stored Shadow.memory shadow.memory
      (if call.succeeded then Span.journalAll 0 (call.outputs.map MemoryArgument.span) else [])
      (call.cross shadow) := by
  rw [cross]
  split
  · exact fillBuffers_stored 0 (shadow.clean Reg.r0) call.outputs
  · exact .done rfl

theorem registers_cross
    {call : CallReturn}
    {shadow after : Shadow}
    (ran : call.cross shadow = .done after ()) :
    after.registers = shadow.registers.set Reg.r0 Lanes.clean := by
  rw [cross] at ran
  split at ran
  · exact registers_fillBuffers ran
  · cases ran
    rfl

end CallReturn

namespace ControlRequest

/-- The labels that serving a request leaves. -/
def journal (request : ControlRequest) (label : UInt8) : Journal :=
  match request.kind with
  | .taint => Span.journal label ⟨request.address, request.length.toNat⟩
  | .clear => Span.journal 0 ⟨request.address, request.length.toNat⟩
  | .query => []

theorem writes_journal {request : ControlRequest} {label : UInt8} {address : Nat}
    (written : (request.journal label).Writes address) :
    request.footprint.Writes address := by
  obtain ⟨kind, first, length⟩ := request
  cases kind with
  | taint => exact ⟨_, List.mem_singleton_self _, Span.writes_journal_iff.1 written⟩
  | clear => exact ⟨_, List.mem_singleton_self _, Span.writes_journal_iff.1 written⟩
  | query => exact absurd written Journal.not_writes_nil

end ControlRequest

theorem Memory.fill_records
    {memory after : Memory}
    {address length : UInt32}
    {label : UInt8}
    (filled : memory.fill address length label = .ok after) :
    memory.Records (Span.journal label ⟨address, length.toNat⟩) after := by
  have stored := memory.storeRange_stored address length label
  rw [fill] at filled
  generalize memory.storeRange address length label = reached at filled stored
  obtain ⟨left, result⟩ := reached
  cases result with
  | error fault => cases filled
  | ok =>
      cases filled
      exact stored after () rfl

namespace ControlRequest

/-- The result of a request, which is the same for every label it does not read. -/
def status (request : ControlRequest) (labels : LabelMap) : UInt32 :=
  match request.kind with
  | .taint | .clear => servedStatus
  | .query =>
      if labels.isTainted request.address.toNat request.length.toNat then servedStatus else 0

theorem status_congr
    {request : ControlRequest}
    {first second : LabelMap}
    (agree : request.footprint.Agree first second) :
    request.status first = request.status second := by
  obtain ⟨kind, address, length⟩ := request
  cases kind with
  | taint => rfl
  | clear => rfl
  | query =>
      have sameLabels : first.slice address.toNat length.toNat =
          second.slice address.toNat length.toNat := by
        apply List.map_congr_left
        intro position member
        have inside := List.mem_range.1 member
        refine agree _ ⟨_, List.mem_singleton_self _, Nat.le_add_right .., ?_⟩
        exact Nat.add_lt_add_left inside _
      rw [status, status, LabelMap.isTainted, sameLabels]
      rfl

/-- A request that was served has stored its journal. -/
theorem serve_done
    {request : ControlRequest}
    {label : UInt8}
    {memory after : Memory}
    {result : UInt32}
    (served : request.serve memory label = .ok (after, result)) :
    result = request.status memory.labels ∧ memory.Records (request.journal label) after := by
  obtain ⟨kind, address, length⟩ := request
  cases kind with
  | taint =>
      cases filled : memory.fill address length label with
      | error fault =>
          rw [serve, filled] at served
          cases served
      | ok marked =>
          rw [serve, filled] at served
          cases served
          exact ⟨rfl, Memory.fill_records filled⟩
  | clear =>
      cases filled : memory.fill address length 0 with
      | error fault =>
          rw [serve, Memory.clean, filled] at served
          cases served
      | ok cleared =>
          rw [serve, Memory.clean, filled] at served
          cases served
          exact ⟨rfl, Memory.fill_records filled⟩
  | query =>
      by_cases covers : memory.labels.Covers address.toNat length.toNat
      · rw [serve, Memory.isTainted_ok covers] at served
        cases served
        exact ⟨rfl, .refl memory⟩
      · rw [serve, Memory.isTainted_error covers] at served
        cases served

end ControlRequest

/-! ## Deeds -/

/-- What an action does: the thread that it leaves, its value, the findings that it adds,
and the labels that it stores. -/
structure Deed (Value : Type) where
  thread : Thread
  value : Value
  findings : Findings
  journal : Journal

/-- An action has done a deed to the thread in view. -/
structure Deed.Done
    (deed : Deed Value)
    (before : Focus)
    (reached : Reached Fault Focus Value) : Prop where
  result : reached.result = .ok deed.value
  thread : reached.state.thread = deed.thread
  findings : reached.state.findings = before.findings.append deed.findings
  memory : before.memory.Records deed.journal reached.state.memory

/-- An action does the same from two views, and writes within a footprint. -/
def SameDeed
    (footprint : Footprint)
    (action : Focus -> Reached Fault Focus Value)
    (first second : Focus) : Prop :=
  ∃ deed : Deed Value, deed.Done first (action first) ∧ deed.Done second (action second) ∧
    ∀ address, deed.journal.Writes address -> footprint.Writes address

/-! ## Steps -/

/-- What an instruction does that executes and leaves these registers and labels. -/
def Instruction.deed
    (instr : Instruction)
    (arrived : Thread)
    (registers : RegisterFile)
    (journal : Journal) : Deed StepOutcome where
  thread :=
    let settled := { arrived with registers := registers }.setRegister Reg.pc Lanes.clean
    match instr.outcome with
    | .unhandled _ => settled.countUnhandled instr.opcode
    | _ => settled
  value := instr.outcome
  findings :=
    (Findings.none.addAccesses (TaintedAccess.ofInstruction instr arrived.registers)).append
      (Findings.none.addJump (TaintedJump.ofInstruction? instr registers))
  journal := journal

namespace Analysis

variable {analysis : Analysis} {first second focus : Focus} {instr : Instruction}
  {context : Context}

/-- A step that ran has executed its instruction and done its deed. -/
theorem step_done
    {outcome : StepOutcome}
    (executes : (focus.thread.arrive instr context).executes instr = true)
    (ran : (analysis.step instr context focus).result = .ok outcome) :
    ∃ after,
      instr.execute analysis.config context ⟨focus.thread.registers, focus.memory⟩ =
        .done after instr.outcome ∧
      (instr.deed (focus.thread.arrive instr context) after.registers
        (instr.journal analysis.config context
          (Shadow.mk focus.thread.registers focus.memory).snapshot)).Done
        focus (analysis.step instr context focus) := by
  have stored := instr.execute_stored analysis.config context
    ⟨focus.thread.registers, focus.memory⟩
  rw [step, Watched.step_of_executes executes, Watched.act] at ran ⊢
  dsimp only [Thread.registers_arrive] at ran ⊢
  cases executed : instr.execute analysis.config context
      ⟨focus.thread.registers, focus.memory⟩ with
  | mk after result =>
      rw [executed] at ran stored
      cases result with
      | error fault => cases ran
      | ok reached =>
          cases Instruction.execute_outcome executed
          refine ⟨after, rfl, rfl, rfl, ?_, stored after _ rfl⟩
          show Findings.addJump (Findings.addAccesses _ _) _ = _
          rw [Findings.addJump_eq, Findings.addAccesses_eq, Findings.append_assoc]
          rfl

theorem step_sameDeed
    {firstOutcome secondOutcome : StepOutcome}
    (sameThread : first.thread = second.thread)
    (agree : (if (first.thread.arrive instr context).executes instr then
        instr.footprint analysis.config context
      else .empty).Agree first.memory.labels second.memory.labels)
    (firstRan : (analysis.step instr context first).result = .ok firstOutcome)
    (secondRan : (analysis.step instr context second).result = .ok secondOutcome) :
    SameDeed
      (if (first.thread.arrive instr context).executes instr then
        instr.footprint analysis.config context
      else .empty)
      (analysis.step instr context) first second := by
  cases executes : (first.thread.arrive instr context).executes instr with
  | false =>
      have skips := executes
      rw [sameThread] at skips
      refine ⟨⟨first.thread.arrive instr context, .skipped, .none, []⟩, ?_, ?_,
        fun _ written => absurd written Journal.not_writes_nil⟩
      · rw [step, Watched.step_of_not_executes executes]
        exact ⟨rfl, rfl, (Findings.append_none _).symm, .refl _⟩
      · rw [step, Watched.step_of_not_executes skips, sameThread]
        exact ⟨rfl, rfl, (Findings.append_none _).symm, .refl _⟩
  | true =>
      rw [executes, if_pos rfl] at agree
      rw [if_pos rfl]
      have sameRegisters := congrArg Thread.registers sameThread
      obtain ⟨firstAfter, firstExecuted, firstDone⟩ := step_done executes firstRan
      rw [sameThread] at executes
      obtain ⟨secondAfter, secondExecuted, secondDone⟩ := step_done executes secondRan
      have registers : firstAfter.registers = secondAfter.registers :=
        Instruction.execute_local sameRegisters agree firstExecuted secondExecuted
      have journals :
          instr.journal analysis.config context
              (Shadow.mk first.thread.registers first.memory).snapshot =
            instr.journal analysis.config context
              (Shadow.mk second.thread.registers second.memory).snapshot :=
        instr.journal_congr (congrArg RegisterFile.get sameRegisters) analysis.config context
      rw [← journals, ← sameThread, ← registers] at secondDone
      exact ⟨_, firstDone, secondDone, fun _ => Instruction.writes_journal_iff.1⟩

/-! ## Calls -/

/-- What is done to a call that carries a request. -/
def requestDeed
    (analysis : Analysis)
    (request : ControlRequest)
    (focus : Focus) : Deed CallDisposition where
  thread := focus.thread.setRegister Reg.r0 Lanes.clean
  value := .emulated (request.status focus.memory.labels)
  findings := .none
  journal := request.journal analysis.config.defaultLabel

/-- A call that carries a request has been served if it ran. -/
theorem enterCall_served
    {number : UInt32}
    {arguments : List UInt32}
    {request : ControlRequest}
    {disposition : CallDisposition}
    (carried : ControlRequest.ofCall? number arguments = some request)
    (ran : (analysis.enterCall number arguments focus).result = .ok disposition) :
    (analysis.requestDeed request focus).Done focus
      (analysis.enterCall number arguments focus) := by
  rw [enterCall, carried] at ran ⊢
  dsimp only at ran ⊢
  cases serving : request.serve focus.memory analysis.config.defaultLabel with
  | error fault =>
      rw [serving] at ran
      cases ran
  | ok reached =>
      obtain ⟨status, records⟩ := ControlRequest.serve_done serving
      exact ⟨congrArg (Except.ok ∘ CallDisposition.emulated) status, rfl,
        (Findings.append_none _).symm, records⟩

/-- What is done to a call that is left to the kernel. -/
def proceedDeed (thread : Thread) (number : UInt32) : Deed CallDisposition where
  thread := { thread with pendingCall := some number }
  value := .proceed
  findings := .none
  journal := []

theorem enterCall_proceeds
    {number : UInt32}
    {arguments : List UInt32}
    (carried : ControlRequest.ofCall? number arguments = none)
    (focus : Focus) :
    (proceedDeed focus.thread number).Done focus
      (analysis.enterCall number arguments focus) := by
  rw [enterCall, carried]
  exact ⟨rfl, rfl, (Findings.append_none _).symm, .refl _⟩

theorem enterCall_sameDeed
    {number : UInt32}
    {arguments : List UInt32}
    {firstValue secondValue : CallDisposition}
    (sameThread : first.thread = second.thread)
    (agree : (((ControlRequest.ofCall? number arguments).map
        ControlRequest.footprint).getD .empty).Agree first.memory.labels second.memory.labels)
    (firstRan : (analysis.enterCall number arguments first).result = .ok firstValue)
    (secondRan : (analysis.enterCall number arguments second).result = .ok secondValue) :
    SameDeed
      (((ControlRequest.ofCall? number arguments).map ControlRequest.footprint).getD .empty)
      (analysis.enterCall number arguments) first second := by
  cases carried : ControlRequest.ofCall? number arguments with
  | none =>
      have secondProceeds : (proceedDeed first.thread number).Done second
          (analysis.enterCall number arguments second) :=
        sameThread ▸ enterCall_proceeds carried second
      exact ⟨_, enterCall_proceeds carried first, secondProceeds,
        fun _ written => absurd written Journal.not_writes_nil⟩
  | some request =>
      rw [carried] at agree
      have secondServed := enterCall_served carried secondRan
      rw [requestDeed, ← sameThread, ← ControlRequest.status_congr agree] at secondServed
      exact ⟨_, enterCall_served carried firstRan, secondServed,
        fun _ => ControlRequest.writes_journal⟩

/-- The labels that the return of a call leaves: its outputs are cleaned, and then
labelled if it is a source. -/
def returnJournal (analysis : Analysis) (call : CallReturn) : Journal :=
  (if analysis.isSource call then
    Span.journalAll analysis.sourceLabel (call.outputs.map MemoryArgument.span)
  else []) ++
    if call.succeeded then Span.journalAll 0 (call.outputs.map MemoryArgument.span) else []

theorem writes_returnJournal
    {call : CallReturn}
    {address : Nat}
    (written : (analysis.returnJournal call).Writes address) :
    (if call.succeeded then
      (⟨[], call.outputs.map MemoryArgument.span⟩ : Footprint)
    else .empty).Writes address := by
  rw [returnJournal, Journal.writes_append_iff, isSource] at written
  cases succeeded : call.succeeded with
  | false =>
      rw [succeeded] at written
      obtain written | written := written
      · exact absurd written Journal.not_writes_nil
      · exact absurd written Journal.not_writes_nil
  | true =>
      rw [succeeded, Bool.true_and, if_pos rfl] at written
      obtain labelled | cleaned := written
      · split at labelled
        · exact Span.writes_journalAll_iff.1 labelled
        · exact absurd labelled Journal.not_writes_nil
      · exact Span.writes_journalAll_iff.1 cleaned

theorem labelInput_stored (analysis : Analysis) (call : CallReturn) (shadow : Shadow) :
    Stored Shadow.memory shadow.memory
      (if analysis.isSource call then
        Span.journalAll analysis.sourceLabel (call.outputs.map MemoryArgument.span)
      else [])
      (analysis.labelInput call shadow) := by
  rw [labelInput]
  split
  · exact CallReturn.fillBuffers_stored analysis.sourceLabel shadow call.outputs
  · exact .done rfl

theorem registers_labelInput
    {call : CallReturn}
    {shadow after : Shadow}
    (ran : analysis.labelInput call shadow = .done after ()) :
    after.registers = shadow.registers := by
  rw [labelInput] at ran
  split at ran
  · exact CallReturn.registers_fillBuffers ran
  · cases ran
    rfl

/-- What the return of a call does. It depends on no label. -/
def returnDeed (analysis : Analysis) (call : CallReturn) (thread : Thread) : Deed Unit where
  thread := { thread with
    registers := thread.registers.set Reg.r0 Lanes.clean
    pendingCall := none }
  value := ()
  findings := Findings.none.addInput (analysis.sourceBytes call)
  journal := analysis.returnJournal call

theorem leaveCall_done
    {call : CallReturn}
    (ran : (analysis.leaveCall call focus).result = .ok ()) :
    (analysis.returnDeed call focus.thread).Done focus (analysis.leaveCall call focus) := by
  have stored := (call.cross_stored ⟨focus.thread.registers, focus.memory⟩).andThen
    fun after _ _ => analysis.labelInput_stored call after
  rw [leaveCall, Watched.act] at ran ⊢
  dsimp only at ran ⊢
  cases returned : (call.cross ⟨focus.thread.registers, focus.memory⟩).andThen
      fun shadow _ => analysis.labelInput call shadow with
  | mk after result =>
      rw [returned] at ran stored
      cases result with
      | error fault => cases ran
      | ok =>
          obtain ⟨crossed, _, crossing, labelling⟩ := Reached.andThen_eq_done_iff.1 returned
          have registers :=
            (registers_labelInput labelling).trans (CallReturn.registers_cross crossing)
          refine ⟨rfl, ?_, Findings.addInput_eq .., stored after _ rfl⟩
          show { focus.thread with registers := after.registers, pendingCall := none } = _
          rw [registers]
          rfl

theorem leaveCall_sameDeed
    {call : CallReturn}
    (sameThread : first.thread = second.thread)
    (firstRan : (analysis.leaveCall call first).result = .ok ())
    (secondRan : (analysis.leaveCall call second).result = .ok ()) :
    SameDeed
      (if call.succeeded then ⟨[], call.outputs.map MemoryArgument.span⟩ else .empty)
      (analysis.leaveCall call) first second := by
  have secondDone := leaveCall_done secondRan
  rw [← sameThread] at secondDone
  exact ⟨_, leaveCall_done firstRan, secondDone, fun _ => writes_returnJournal⟩

end Analysis
end ShadowTaint
