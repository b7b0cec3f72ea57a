import ShadowTaint.Analysis.Step
import ShadowTaint.Proofs.Labels.Findings

/-!
# The analysis of related runs

On each of its three occasions an analysis decides what to do without looking at a
label: a step by the flags, the entry of a call by its number and arguments, and its
return by what the tracer knows about it. So related runs in which one thread is in
view stay related. Only the answer to a query may differ, and no thread sees it.
-/

namespace ShadowTaint
namespace LabelRelation

variable {Run : Type} {relation : LabelRelation Run} {base size : Nat}

/-- Threads that differ in taint only, which is related. -/
inductive Threads (relation : LabelRelation Run) : (Run -> Thread) -> Prop
  | intro
      (common : Thread)
      {files : Run -> RegisterFile}
      (files_related : relation.Files files) :
      Threads relation fun run => { common with registers := files run }

/-- One thread in view of related runs. -/
inductive Foci (relation : LabelRelation Run) (base size : Nat) : (Run -> Focus) -> Prop
  | intro
      (common : Thread)
      (findings : Run -> Findings)
      {files : Run -> RegisterFile}
      {memories : Run -> Memory}
      (files_related : relation.Files files)
      (memories_related : relation.Memories base size memories) :
      Foci relation base size fun run =>
        ⟨{ common with registers := files run }, memories run, findings run⟩

/-- Analyses that differ in their labels only, which are related. -/
inductive Analyses (relation : LabelRelation Run) : (Run -> Analysis) -> Prop
  | intro
      (config : AnalysisConfig)
      (calls : List UInt32)
      {defaults sources : Run -> UInt8}
      (default_related : relation.holds defaults)
      (source_related : relation.holds sources) :
      Analyses relation fun run => ⟨config.withLabel (defaults run), calls, sources run⟩

/-- A thread in view may be put back where it was. -/
theorem Foci.threads
    {foci : Run -> Focus}
    (related : relation.Foci base size foci) :
    relation.Threads fun run => (foci run).thread := by
  cases related with
  | intro common findings files memories => exact .intro common files

theorem Foci.memories
    {foci : Run -> Focus}
    (related : relation.Foci base size foci) :
    relation.Memories base size fun run => (foci run).memory := by
  cases related with
  | intro common findings files memories => exact memories

theorem Foci.shadows
    {foci : Run -> Focus}
    (related : relation.Foci base size foci) :
    relation.Shadows base size fun run =>
      ⟨(foci run).thread.registers, (foci run).memory⟩ := by
  cases related with
  | intro common findings files memories => exact ⟨files, memories⟩

/-- An occasion in related runs: it ends alike, with related foci, findings at the
same sites, and values with a common property. -/
def Occasion
    (relation : LabelRelation Run)
    (base size : Nat)
    (common : (Run -> Value) -> Prop)
    (foci : Run -> Focus)
    (runs : Run -> Reached Fault Focus Value) : Prop :=
  Alike
    (fun nexts values => relation.Foci base size nexts ∧
      relation.Recorded (fun run => (foci run).findings) (fun run => (nexts run).findings) ∧
      common values) runs

/-- The calls of all runs proceed, or all are emulated. -/
inductive SameKind : (Run -> CallDisposition) -> Prop
  | proceed : SameKind fun _ => .proceed
  | emulated (results : Run -> UInt32) : SameKind fun run => .emulated (results run)

/-- Acting on the registers of a thread and the memory keeps the rest in view. -/
theorem Keeps.act
    {files : Run -> RegisterFile}
    {memories : Run -> Memory}
    {action : Run -> Shadow -> Reached Fault Shadow Value}
    (keeps : relation.Keeps base size fun run => action run ⟨files run, memories run⟩)
    (common : Thread)
    (findings : Run -> Findings) :
    Alike
      (fun nexts values => ∃ shadows, relation.Shadows base size shadows ∧
        (nexts = fun run => ⟨{ common with registers := (shadows run).registers },
          (shadows run).memory, findings run⟩) ∧
        Unanimous values)
      fun run => (Watched.mk { common with registers := files run }
        (memories run) (findings run)).act (action run) := by
  refine Alike.mapState keeps
    (fun run shadow => Watched.mk { common with registers := shadow.registers }
      shadow.memory (findings run)) ?_
  rintro shadows values ⟨related, unanimous⟩
  exact ⟨shadows, related, rfl, unanimous⟩

/-! ## Steps -/

theorem step_skipped
    {common : Thread}
    {instr : Instruction}
    {context : Context}
    (skips : (common.arrive instr context).executes instr = false)
    (analysis : Analysis)
    (file : RegisterFile)
    (memory : Memory)
    (findings : Findings) :
    analysis.step instr context ⟨{ common with registers := file }, memory, findings⟩ =
      .done ⟨{ common.arrive instr context with registers := file }, memory, findings⟩
        .skipped := by
  show (if (common.arrive instr context).executes instr then _ else _) = _
  rw [skips]
  rfl

theorem step_executed
    {common : Thread}
    {instr : Instruction}
    {context : Context}
    (executes : (common.arrive instr context).executes instr = true)
    (analysis : Analysis)
    (file : RegisterFile)
    (memory : Memory)
    (findings : Findings) :
    analysis.step instr context ⟨{ common with registers := file }, memory, findings⟩ =
      ((Watched.mk { common.arrive instr context with registers := file } memory
        (Observer.sinks.before instr file findings)).act
          (instr.execute analysis.config context)).andThen fun watched outcome =>
            .done (watched.finish Observer.sinks instr outcome) outcome := by
  show (if (common.arrive instr context).executes instr then _ else _) = _
  rw [executes]
  rfl

/-- Finishing an instruction keeps foci related. -/
theorem Foci.finish
    {shadows : Run -> Shadow}
    (related : relation.Shadows base size shadows)
    (common : Thread)
    (findings : Run -> Findings)
    (instr : Instruction)
    (outcome : StepOutcome) :
    relation.Foci base size fun run =>
      (Watched.mk { common with registers := (shadows run).registers }
        (shadows run).memory (findings run)).finish Observer.sinks instr outcome := by
  have files := related.files.set Taints.clean Reg.pc
  cases outcome with
  | executed => exact .intro common _ files related.memories
  | skipped => exact .intro common _ files related.memories
  | unhandled kind => exact .intro (common.countUnhandled instr.opcode) _ files related.memories

/-- A step whose rule keeps labels related has one outcome. -/
theorem Foci.step_of_keeps
    {foci : Run -> Focus}
    {analyses : Run -> Analysis}
    {instr : Instruction}
    {context : Context}
    (related : relation.Foci base size foci)
    (keeps : (∀ run, ((foci run).thread.arrive instr context).executes instr = true) ->
      relation.Keeps base size fun run =>
        instr.execute (analyses run).config context
          ⟨(foci run).thread.registers, (foci run).memory⟩) :
    relation.Occasion base size Unanimous foci
      fun run => (analyses run).step instr context (foci run) := by
  cases related with
  | @intro common findings files memories filesRelated memoriesRelated =>
  cases executes : (common.arrive instr context).executes instr with
  | false =>
      refine .congr (fun run => step_skipped executes _ _ _ _) ?_
      exact .done ⟨.intro _ findings filesRelated memoriesRelated,
        .ofEq (fun _ => rfl) (fun _ => rfl), .skipped, rfl⟩
  | true =>
      refine .congr (fun run => step_executed executes _ _ _ _) ?_
      apply (Keeps.act (keeps fun _ => executes) _ _).andThen
      rintro nexts outcomes ⟨ends, endsRelated, rfl, outcome, rfl⟩
      exact .done ⟨.finish endsRelated _ _ instr outcome,
        .sinks filesRelated endsRelated.files instr findings, outcome, rfl⟩

/-- A step of related runs has one outcome. -/
theorem Foci.step
    {foci : Run -> Focus}
    {analyses : Run -> Analysis}
    (related : relation.Foci base size foci)
    (analysesRelated : relation.Analyses analyses)
    (instr : Instruction)
    (context : Context) :
    relation.Occasion base size Unanimous foci
      fun run => (analyses run).step instr context (foci run) := by
  cases analysesRelated with
  | intro config calls =>
      exact related.step_of_keeps fun _ => related.shadows.execute config context instr

/-! ## System calls -/

theorem Shadows.fillBuffers
    {shadows : Run -> Shadow}
    {labels : Run -> UInt8}
    (related : relation.Shadows base size shadows)
    (labelsRelated : relation.holds labels)
    (buffers : List MemoryArgument) :
    relation.Keeps base size fun run =>
      CallReturn.fillBuffers (labels run) (shadows run) buffers := by
  induction buffers generalizing shadows with
  | nil => exact related.keeps ()
  | cons buffer rest inductionHypothesis =>
      apply Keeps.andThen (related.fill labelsRelated)
      intro nexts _ nextsRelated
      exact inductionHypothesis nextsRelated

theorem Shadows.cross
    {shadows : Run -> Shadow}
    (related : relation.Shadows base size shadows)
    (call : CallReturn) :
    relation.Keeps base size fun run => call.cross (shadows run) := by
  have settled := related.clean Reg.r0
  unfold CallReturn.cross
  cases call.succeeded with
  | false => exact settled.keeps ()
  | true => exact settled.fillBuffers relation.zero call.outputs

/-- Filling a range in related runs. -/
theorem Memories.fill
    {memories : Run -> Memory}
    {labels : Run -> UInt8}
    (related : relation.Memories base size memories)
    (labelsRelated : relation.holds labels)
    (address length : UInt32) :
    (∃ nexts, relation.Memories base size nexts ∧
      ∀ run, (memories run).fill address length (labels run) = .ok (nexts run)) ∨
      ∃ fault, ∀ run, (memories run).fill address length (labels run) = .error fault :=
  (related.storeRange labelsRelated).final

/-- A query about a range is answered in all runs or in none. -/
theorem Memories.isTainted
    {memories : Run -> Memory}
    (related : relation.Memories base size memories)
    (address length : UInt32) :
    (∃ answers : Run -> Bool,
      ∀ run, (memories run).isTainted address length = .ok (answers run)) ∨
      ∃ fault, ∀ run, (memories run).isTainted address length = .error fault := by
  by_cases covers : (LabelMap.clean base size).Covers address.toNat length.toNat
  · exact .inl ⟨_, fun run =>
      Memory.isTainted_ok ((Maps.covers_iff related run _ _).2 covers)⟩
  · refine .inr ⟨rangeFault base size address length.toNat, fun run => ?_⟩
    rw [Memory.isTainted_error (mt (Maps.covers_iff related run _ _).1 covers),
      accessFault_eq related]

/-- Serving a request in related runs. The results may differ, since a query answers
from the labels. -/
theorem Memories.serve
    {memories : Run -> Memory}
    {labels : Run -> UInt8}
    (related : relation.Memories base size memories)
    (labelsRelated : relation.holds labels)
    (request : ControlRequest) :
    (∃ nexts, ∃ results : Run -> UInt32, relation.Memories base size nexts ∧
      ∀ run, request.serve (memories run) (labels run) = .ok (nexts run, results run)) ∨
      ∃ fault, ∀ run, request.serve (memories run) (labels run) = .error fault := by
  obtain ⟨kind, address, length⟩ := request
  cases kind with
  | taint =>
      obtain ⟨nexts, nextsRelated, filled⟩ | ⟨fault, failed⟩ :=
        related.fill labelsRelated address length
      · refine .inl ⟨nexts, fun _ => ControlRequest.servedStatus, nextsRelated, ?_⟩
        intro run
        simp only [ControlRequest.serve, filled run]
        rfl
      · refine .inr ⟨fault, fun run => ?_⟩
        simp only [ControlRequest.serve, failed run]
        rfl
  | clear =>
      obtain ⟨nexts, nextsRelated, filled⟩ | ⟨fault, failed⟩ :=
        related.fill relation.zero address length
      · refine .inl ⟨nexts, fun _ => ControlRequest.servedStatus, nextsRelated, ?_⟩
        intro run
        simp only [ControlRequest.serve, Memory.clean, filled run]
        rfl
      · refine .inr ⟨fault, fun run => ?_⟩
        simp only [ControlRequest.serve, Memory.clean, failed run]
        rfl
  | query =>
      obtain ⟨answers, answered⟩ | ⟨fault, failed⟩ := related.isTainted address length
      · refine .inl ⟨memories,
          fun run => if answers run then ControlRequest.servedStatus else 0, related, ?_⟩
        intro run
        simp only [ControlRequest.serve, answered run]
        rfl
      · refine .inr ⟨fault, fun run => ?_⟩
        simp only [ControlRequest.serve, failed run]
        rfl

/-- The entry of a system call in related runs. -/
theorem Foci.enterCall
    {foci : Run -> Focus}
    {analyses : Run -> Analysis}
    (related : relation.Foci base size foci)
    (analysesRelated : relation.Analyses analyses)
    (number : UInt32)
    (arguments : List UInt32) :
    relation.Occasion base size SameKind foci
      fun run => (analyses run).enterCall number arguments (foci run) := by
  cases analysesRelated with
  | @intro config calls defaults sources defaultRelated sourceRelated =>
  cases related with
  | @intro common findings files memories filesRelated memoriesRelated =>
  cases requested : ControlRequest.ofCall? number arguments with
  | none =>
      refine .congr (fun run => ?_) (.done ⟨.intro { common with pendingCall := some number }
        findings filesRelated memoriesRelated, .ofEq (fun _ => rfl) (fun _ => rfl), .proceed⟩)
      simp only [Analysis.enterCall, requested]
  | some request =>
      obtain ⟨nexts, results, nextsRelated, served⟩ | ⟨fault, failed⟩ :=
        memoriesRelated.serve defaultRelated request
      · refine .congr (fun run => ?_) (.done ⟨.intro common findings
          (filesRelated.set Taints.clean Reg.r0) nextsRelated,
          .ofEq (fun _ => rfl) (fun _ => rfl), .emulated results⟩)
        simp only [Analysis.enterCall, requested, AnalysisConfig.withLabel, served run]
        rfl
      · refine .ofStopped (fun run =>
          ⟨{ common with registers := files run }, memories run, findings run⟩) fault ?_
        intro run
        simp only [Analysis.enterCall, requested, AnalysisConfig.withLabel, failed run]

/-- The return of a system call in related runs. -/
theorem Foci.leaveCall
    {foci : Run -> Focus}
    {analyses : Run -> Analysis}
    (related : relation.Foci base size foci)
    (analysesRelated : relation.Analyses analyses)
    (call : CallReturn) :
    relation.Occasion base size Unanimous foci
      fun run => (analyses run).leaveCall call (foci run) := by
  cases analysesRelated with
  | @intro config calls defaults sources defaultRelated sourceRelated =>
  cases related with
  | @intro common findings files memories filesRelated memoriesRelated =>
  have shadows : relation.Shadows base size fun run => ⟨files run, memories run⟩ :=
    ⟨filesRelated, memoriesRelated⟩
  have crossed : relation.Keeps base size fun run =>
      (call.cross ⟨files run, memories run⟩).andThen fun shadow _ =>
        (Analysis.mk (config.withLabel (defaults run)) calls (sources run)).labelInput
          call shadow := by
    apply Keeps.andThen (shadows.cross call)
    intro nexts _ nextsRelated
    show relation.Keeps base size fun run =>
      if call.succeeded && calls.contains call.number then
        CallReturn.fillBuffers (sources run) (nexts run) call.outputs
      else .done (nexts run) ()
    cases call.succeeded && calls.contains call.number with
    | false => exact nextsRelated.keeps ()
    | true => exact nextsRelated.fillBuffers sourceRelated call.outputs
  apply (Keeps.act crossed { common with pendingCall := none } findings).andThen
  rintro nexts values ⟨ends, endsRelated, rfl, -⟩
  exact .done ⟨.intro _ _ endsRelated.files endsRelated.memories,
    .ofEq (fun _ => rfl) (fun _ => rfl), (), rfl⟩

end LabelRelation
end ShadowTaint
