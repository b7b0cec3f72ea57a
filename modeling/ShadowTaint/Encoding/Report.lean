import ShadowTaint.Encoding.Instruction
import ShadowTaint.Json.Printer
import ShadowTaint.Trace.Replay

/-!
# Reports

What a replay prints: its statistics, the tainted jumps, and the tainted
accesses, each list in the order of the trace. Taint is written as one number
per register; opcodes without a rule are listed in declaration order.
-/

namespace ShadowTaint

/-- The taint of a register as one number. -/
def Lanes.toJson (lanes : Lanes) : Json := .integer lanes.toWord.toNat

/-- The opcodes that were met, with their counts. -/
def Tally.toJson (tally : Tally) : Json :=
  .object (tally.entries.map fun entry => (entry.1.mnemonic, .integer entry.2))

/-- Statistics with every count. -/
def Statistics.toJson (statistics : Statistics) : Json :=
  .object [
    ("events", .integer statistics.events),
    ("executed", .integer statistics.executed),
    ("skipped", .integer statistics.skipped),
    ("unhandled", .integer statistics.unhandled),
    ("syscalls", .integer statistics.calls),
    ("control_requests", .integer statistics.controlRequests),
    ("threads", .integer statistics.threads),
    ("unhandled_opcodes", statistics.unhandledOpcodes.toJson)]

/-- A tainted jump. -/
def TaintedJump.toJson (jump : TaintedJump) : Json :=
  .object [
    ("pc", .integer jump.pc.toNat),
    ("opcode", .string jump.opcode.mnemonic),
    ("taint", jump.taint.toJson)]

/-- A tainted access. -/
def TaintedAccess.toJson (access : TaintedAccess) : Json :=
  .object [
    ("pc", .integer access.pc.toNat),
    ("opcode", .string access.opcode.mnemonic),
    ("reg", access.reg.toJson),
    ("taint", access.taint.toJson),
    ("store", .boolean access.isStore)]

/-- The report of a replay. -/
structure Report where
  statistics : Statistics
  jumps : List TaintedJump
  accesses : List TaintedAccess
  deriving DecidableEq

namespace Report

/-- A report with all its parts. -/
def toJson (report : Report) : Json :=
  .object [
    ("stats", report.statistics.toJson),
    ("tainted_jumps", .array (report.jumps.map TaintedJump.toJson)),
    ("tainted_accesses", .array (report.accesses.map TaintedAccess.toJson))]

end Report

/-- The report of a replay as far as it has come. -/
def Replay.report (replay : Replay) : Report :=
  ⟨replay.statistics, replay.findings.jumps.toList, replay.findings.accesses.toList⟩

end ShadowTaint
