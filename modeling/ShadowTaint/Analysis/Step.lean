import ShadowTaint.Analysis.Observer
import ShadowTaint.Call.Argument
import ShadowTaint.Call.Control
import ShadowTaint.Thread.Basic

/-!
# The analysis of one thread

An analysis meets three kinds of occasion in a thread: an instruction about to
execute, the entry of a system call, and its return. Each acts on the thread and
on the memory that all threads share, and may add findings.

The program counter is tainted only while the instruction that wrote it is
looked at. When an instruction is done, the program counter is clean again.
-/

namespace ShadowTaint

/-- An analysis: its settings, and the system calls whose outputs it labels. -/
structure Analysis where
  config : AnalysisConfig
  /-- The numbers of the system calls that are sources of taint. -/
  sourceCalls : List UInt32
  /-- The label of the outputs of a source. -/
  sourceLabel : UInt8

/-- A thread in view, with the shared memory and what was noted so far. -/
structure Watched (Notes : Type) where
  thread : Thread
  memory : Memory
  findings : Notes

/-- A thread in view, with the shared memory and the findings so far. -/
abbrev Focus := Watched Findings

/-- What happens to a system call that is about to be entered. -/
inductive CallDisposition
  /-- The kernel executes it. -/
  | proceed
  /-- It is not executed; the result stands in for the kernel's. -/
  | emulated (result : UInt32)
  deriving DecidableEq

namespace Watched

variable {Notes : Type}

/-- Act on the registers of the thread and the memory. -/
def act (watched : Watched Notes) (action : Shadow -> Reached Fault Shadow Value) :
    Reached Fault (Watched Notes) Value :=
  match watched with
  | ⟨thread, memory, notes⟩ =>
      (action ⟨thread.registers, memory⟩).mapState fun shadow =>
        ⟨{ thread with registers := shadow.registers }, shadow.memory, notes⟩

/-- Finish an instruction whose rule has been applied: let the observer look at
the program counter, clean it, and count the opcode if there was no rule. -/
def finish (watched : Watched Notes) (observer : Observer Notes) (instr : Instruction)
    (outcome : StepOutcome) : Watched Notes :=
  match watched with
  | ⟨thread, memory, notes⟩ =>
      let noted := observer.after instr thread.registers notes
      let settled := thread.setRegister Reg.pc Lanes.clean
      ⟨match outcome with
        | .unhandled _ => settled.countUnhandled instr.opcode
        | _ => settled,
        memory, noted⟩

/-- Meet one instruction, right before it executes. -/
def step (observer : Observer Notes) (config : AnalysisConfig) (instr : Instruction)
    (context : Context) (watched : Watched Notes) :
    Reached Fault (Watched Notes) StepOutcome :=
  match watched with
  | ⟨thread, memory, notes⟩ =>
      let arrived := thread.arrive instr context
      if arrived.executes instr then
        let noted := observer.before instr arrived.registers notes
        let executed :=
          (Watched.mk arrived memory noted).act (instr.execute config context)
        executed.andThen fun watched outcome =>
          .done (watched.finish observer instr outcome) outcome
      else .done ⟨arrived, memory, notes⟩ .skipped

end Watched

namespace CallReturn

/-- Give every byte of a number of buffers one label. -/
def fillBuffers (label : UInt8) (shadow : Shadow) :
    List MemoryArgument -> Reached Fault Shadow Unit
  | [] => .done shadow ()
  | argument :: rest =>
      (shadow.fill argument.address argument.length label).andThen fun shadow _ =>
        fillBuffers label shadow rest

/-- The result register does not depend on data of the program, and after
success the output buffers hold what the kernel put there. -/
def cross (call : CallReturn) (shadow : Shadow) : Reached Fault Shadow Unit :=
  let settled := shadow.clean Reg.r0
  if call.succeeded then fillBuffers 0 settled call.outputs else .done settled ()

end CallReturn

namespace Analysis

/-- The clean memory over which an analysis works. -/
def createMemory (analysis : Analysis) : Except Fault Memory :=
  analysis.config.createMemory

/-- Analyse one instruction, right before it executes. -/
def step (analysis : Analysis) (instr : Instruction) (context : Context) (focus : Focus) :
    Reached Fault Focus StepOutcome :=
  Watched.step Observer.sinks analysis.config instr context focus

/-- Analyse the entry of a system call with the given argument registers. -/
def enterCall (analysis : Analysis) (number : UInt32) (arguments : List UInt32)
    (focus : Focus) : Reached Fault Focus CallDisposition :=
  match ControlRequest.ofCall? number arguments with
  | some request =>
      match request.serve focus.memory analysis.config.defaultLabel with
      | .ok (memory, result) =>
          .done { focus with
            thread := focus.thread.setRegister Reg.r0 Lanes.clean
            memory := memory } (.emulated result)
      | .error fault => .stopped focus fault
  | none =>
      .done { focus with thread := { focus.thread with pendingCall := some number } } .proceed

/-- A system call brings in labelled data. -/
def isSource (analysis : Analysis) (call : CallReturn) : Bool :=
  call.succeeded && analysis.sourceCalls.contains call.number

/-- Label the outputs of a source. -/
def labelInput (analysis : Analysis) (call : CallReturn) (shadow : Shadow) :
    Reached Fault Shadow Unit :=
  if analysis.isSource call then
    CallReturn.fillBuffers analysis.sourceLabel shadow call.outputs
  else .done shadow ()

/-- The number of bytes that a source brings in. -/
def sourceBytes (analysis : Analysis) (call : CallReturn) : Nat :=
  if analysis.isSource call then
    (call.outputs.map fun argument => argument.length.toNat).foldr (· + ·) 0
  else 0

/-- Analyse the return of a system call. -/
def leaveCall (analysis : Analysis) (call : CallReturn) (focus : Focus) :
    Reached Fault Focus Unit :=
  let returned := { focus with thread := { focus.thread with pendingCall := none } }
  let crossed := returned.act fun shadow =>
    (call.cross shadow).andThen fun shadow _ => analysis.labelInput call shadow
  crossed.andThen fun focus _ =>
    .done { focus with findings := focus.findings.addInput (analysis.sourceBytes call) } ()

/-- Taint a range, with the configured label unless one is given. -/
def taintRange (analysis : Analysis) (memory : Memory) (address length : UInt32)
    (label? : Option UInt8) : Except Fault Memory :=
  memory.fill address length (label?.getD analysis.config.defaultLabel)

end Analysis
end ShadowTaint
