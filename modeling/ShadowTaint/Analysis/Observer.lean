import ShadowTaint.Analysis.Finding

/-!
# Observers

An analysis may be watched. An observer is shown the registers before and after
the rule of every executing instruction, and takes notes. It changes nothing.
-/

namespace ShadowTaint

/-- What takes notes about executing instructions. -/
structure Observer (Notes : Type) where
  /-- Look at an instruction before its rule is applied. -/
  before : Instruction -> RegisterFile -> Notes -> Notes
  /-- Look at an instruction after its rule has been applied. -/
  after : Instruction -> RegisterFile -> Notes -> Notes

namespace Observer

/-- The observer that notes nothing. -/
def silent : Observer Notes where
  before := fun _ _ notes => notes
  after := fun _ _ notes => notes

/-- The observer that looks for findings: accesses through tainted registers
before the rule, tainted jumps after it. -/
def sinks : Observer Findings where
  before := fun instr registers findings =>
    findings.addAccesses (TaintedAccess.ofInstruction instr registers)
  after := fun instr registers findings =>
    findings.addJump (TaintedJump.ofInstruction? instr registers)

end Observer
end ShadowTaint
