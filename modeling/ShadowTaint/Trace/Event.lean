import ShadowTaint.Arch.Context
import ShadowTaint.Call.Argument
import ShadowTaint.Instr.Operation

/-!
# Trace events

What a tracer records, in the order in which it happened: instructions about to
execute, entries and returns of system calls, taint that the tracer introduces
or removes, and ends of threads.
-/

namespace ShadowTaint

/-- One event of a trace. -/
inductive Event
  /-- A thread is about to execute an instruction. -/
  | step (thread : UInt32) (instr : Instruction) (context : Context)
  /-- A thread is about to enter a system call with these argument registers. -/
  | callEntry (thread number : UInt32) (arguments : List UInt32)
  /-- A system call of a thread has returned. -/
  | callReturn (thread : UInt32) (call : CallReturn)
  /-- The tracer taints a range, with the configured label unless one is given. -/
  | taint (address length : UInt32) (label : Option UInt8)
  /-- The tracer cleans a range. -/
  | untaint (address length : UInt32)
  /-- A thread ends. -/
  | threadExit (thread : UInt32)
  deriving DecidableEq

namespace Event

/-- The thread to which an event belongs; taint requests belong to none. -/
def thread? : Event -> Option UInt32
  | step thread _ _ | callEntry thread _ _ | callReturn thread _ | threadExit thread =>
      some thread
  | taint _ _ _ | untaint _ _ => none

end Event
end ShadowTaint
