import ShadowTaint.Analysis.Step
import ShadowTaint.Thread.Table
import ShadowTaint.Trace.Event

/-!
# Replay

A replay applies the events of a trace, one after the other, to the shadow
state of the whole program. A thread begins with the first event that needs it,
and ends with its exit; the same identifier may begin again. Statistics count
what was met, whether or not the thread that met it is still alive.
-/

namespace ShadowTaint

/-- What a replay has counted. -/
structure Statistics where
  events : Nat
  executed : Nat
  skipped : Nat
  unhandled : Nat
  calls : Nat
  /-- The control requests that were served. -/
  controlRequests : Nat
  threads : Nat
  unhandledOpcodes : Tally
  deriving DecidableEq

namespace Statistics

/-- Nothing was counted. -/
def zero : Statistics := ⟨0, 0, 0, 0, 0, 0, 0, Tally.empty⟩

instance : Inhabited Statistics := ⟨zero⟩

/-- Count the outcome of an instruction. -/
def countOutcome (statistics : Statistics) : StepOutcome -> Statistics
  | .executed => { statistics with executed := statistics.executed + 1 }
  | .skipped => { statistics with skipped := statistics.skipped + 1 }
  | .unhandled _ => { statistics with unhandled := statistics.unhandled + 1 }

/-- Count a system call that was not left to the kernel. -/
def countDisposition (statistics : Statistics) : CallDisposition -> Statistics
  | .proceed => statistics
  | .emulated _ => { statistics with controlRequests := statistics.controlRequests + 1 }

/-- Take in the opcodes that a thread could not handle. -/
def takeIn (statistics : Statistics) (thread : Thread) : Statistics :=
  { statistics with
    unhandledOpcodes := statistics.unhandledOpcodes.merge thread.unhandled }

end Statistics

/-- The state of a replay. -/
structure Replay where
  memory : Memory
  threads : ThreadTable
  /-- The counts so far, without the opcodes that live threads could not handle. -/
  counted : Statistics
  findings : Findings

namespace Replay

/-- A replay over memory that is to be used from the start. -/
def start (memory : Memory) : Replay :=
  ⟨memory, ThreadTable.empty, Statistics.zero, Findings.none⟩

/-- The counts so far. -/
def statistics (replay : Replay) : Statistics :=
  replay.threads.threads.foldl Statistics.takeIn replay.counted

/-- Count an event. -/
def countEvent (replay : Replay) : Replay :=
  { replay with
    counted := { replay.counted with events := replay.counted.events + 1 } }

/-- Make sure that a thread has begun. -/
def begin (replay : Replay) (id : UInt32) : Replay :=
  if (replay.threads.find? id).isSome then replay
  else
    { replay with
      threads := replay.threads.insert (Thread.start id)
      counted := { replay.counted with threads := replay.counted.threads + 1 } }

/-- Look at one thread, do something to it and the memory, and count its value.
A thread begins by being looked at. -/
def within (replay : Replay) (id : UInt32)
    (action : Focus -> Reached Fault Focus Value)
    (count : Statistics -> Value -> Statistics) : Reached Fault Replay Unit :=
  match replay.begin id with
  | ⟨memory, threads, counted, findings⟩ =>
      let thread := (threads.find? id).getD (Thread.start id)
      match action ⟨thread, memory, findings⟩ with
      | ⟨⟨thread, memory, findings⟩, result⟩ =>
          let threads := threads.insert thread
          match result with
          | .ok value => .done ⟨memory, threads, count counted value, findings⟩ ()
          | .error fault => .stopped ⟨memory, threads, counted, findings⟩ fault

/-- Change the memory, or stop. -/
def changeMemory (replay : Replay) (change : Memory -> Except Fault Memory) :
    Reached Fault Replay Unit :=
  match change replay.memory with
  | .ok memory => .done { replay with memory := memory } ()
  | .error fault => .stopped replay fault

/-- End a thread; what it could not handle stays counted. -/
def endThread (replay : Replay) (id : UInt32) : Replay :=
  match replay.threads.find? id with
  | some thread =>
      { replay with
        threads := replay.threads.erase id
        counted := replay.counted.takeIn thread }
  | none => replay

/-- Count a system call that is about to be entered. -/
def countCall (replay : Replay) : Replay :=
  { replay with
    counted := { replay.counted with calls := replay.counted.calls + 1 } }

end Replay

namespace Analysis

/-- Apply one event. -/
def apply (analysis : Analysis) (replay : Replay) (event : Event) :
    Reached Fault Replay Unit :=
  let replay := replay.countEvent
  match event with
  | .step id instr context =>
      replay.within id (analysis.step instr context) Statistics.countOutcome
  | .callEntry id number arguments =>
      replay.countCall.within id (analysis.enterCall number arguments)
        Statistics.countDisposition
  | .callReturn id call =>
      replay.within id (analysis.leaveCall call) fun statistics _ => statistics
  | .taint address length label? =>
      replay.changeMemory fun memory => analysis.taintRange memory address length label?
  | .untaint address length =>
      replay.changeMemory fun memory => memory.clean address length
  | .threadExit id => .done (replay.endThread id) ()

/-- Apply events in order; the first fault ends the replay. -/
def applyAll (analysis : Analysis) (replay : Replay) : List Event -> Reached Fault Replay Unit
  | [] => .done replay ()
  | event :: rest =>
      (analysis.apply replay event).andThen fun replay _ => analysis.applyAll replay rest

@[simp] theorem applyAll_nil (analysis : Analysis) (replay : Replay) :
    analysis.applyAll replay [] = .done replay () := rfl

/-- Applying an append is applying its first part, then the others. -/
theorem applyAll_append (analysis : Analysis) (replay : Replay) (first second : List Event) :
    analysis.applyAll replay (first ++ second) =
      (analysis.applyAll replay first).andThen fun replay _ =>
        analysis.applyAll replay second := by
  induction first generalizing replay with
  | nil => rfl
  | cons event rest inductionHypothesis =>
      rw [List.cons_append, applyAll, applyAll]
      cases analysis.apply replay event with
      | mk reached result =>
          cases result with
          | ok => exact inductionHypothesis reached
          | error fault => rfl

/-- The last event is applied to the replay of those before it. -/
theorem applyAll_concat (analysis : Analysis) (replay : Replay) (past : List Event)
    (event : Event) :
    analysis.applyAll replay (past ++ [event]) =
      (analysis.applyAll replay past).andThen fun replay _ => analysis.apply replay event := by
  rw [applyAll_append]
  congr 1
  funext replay _
  rw [applyAll]
  generalize analysis.apply replay event = applied
  obtain ⟨state, result⟩ := applied
  cases result <;> rfl

end Analysis
end ShadowTaint
