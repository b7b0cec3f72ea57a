import ShadowTaint.Arch.Cond
import ShadowTaint.Arch.Context
import ShadowTaint.Instr.Operation
import ShadowTaint.Shadow.RegisterFile
import ShadowTaint.Thread.Tally

/-!
# Threads

What the analysis keeps for one thread of the program: the taint of its
registers, the flags as last observed, the opcode before, the system call it is
in, and a tally of the opcodes without a rule.

Flags carry no taint. They are observed only to decide predicates, one
instruction after an opcode that may have changed them, because that is when
their new values can be seen.
-/

namespace ShadowTaint

/-- The flags may have changed since they were last observed. -/
def flagsOutdated (previous : Option Opcode) : Bool := previous.any Opcode.affectsFlags

/-- The flags as observed behind an opcode: they are looked at only if those that
are known may be outdated. -/
def observeFlags (previous : Option Opcode) (known actual : Flags) : Flags :=
  if flagsOutdated previous then actual else known

/-- The state of one thread. -/
structure Thread where
  id : UInt32
  registers : RegisterFile
  /-- The flags as last observed. -/
  observed : Flags
  /-- The opcode of the instruction before. -/
  previous : Option Opcode
  /-- The system call that was entered and has not returned. -/
  pendingCall : Option UInt32
  /-- The opcodes that were met without a taint rule. -/
  unhandled : Tally

namespace Thread

/-- A thread that has done nothing. -/
def start (id : UInt32) : Thread where
  id := id
  registers := RegisterFile.clean
  observed := Flags.clear
  previous := none
  pendingCall := none
  unhandled := Tally.empty

/-- Arrive at an instruction: refresh outdated flags and note the opcode. -/
def arrive (thread : Thread) (instr : Instruction) (context : Context) : Thread :=
  { thread with
    observed := observeFlags thread.previous thread.observed context.flags
    previous := some instr.opcode }

/-- The instruction at which the thread has arrived executes. -/
def executes (thread : Thread) (instr : Instruction) : Bool :=
  match instr.condition? with
  | some cond => cond.holds thread.observed
  | none => true

/-- Count an opcode without a taint rule. -/
def countUnhandled (thread : Thread) (opcode : Opcode) : Thread :=
  { thread with unhandled := thread.unhandled.add opcode }

/-- Give a register of the thread a taint. -/
def setRegister (thread : Thread) (reg : Reg) (taint : Lanes) : Thread :=
  { thread with registers := thread.registers.set reg taint }

@[simp] theorem previous_arrive (thread : Thread) (instr : Instruction) (context : Context) :
    (thread.arrive instr context).previous = some instr.opcode := rfl

@[simp] theorem registers_arrive (thread : Thread) (instr : Instruction) (context : Context) :
    (thread.arrive instr context).registers = thread.registers := rfl

theorem executes_eq_false_iff {thread : Thread} {instr : Instruction} :
    thread.executes instr = false ↔
      ∃ cond, instr.condition? = some cond ∧ cond.holds thread.observed = false := by
  unfold executes
  cases instr.condition? <;> simp

end Thread
end ShadowTaint
