import ShadowTaint.Arch.Reg

/-!
# Source operands

A data-processing instruction reads immediates, registers, and registers that
are shifted by a constant or by another register. Taint flows from the
registers of an operand, the register that holds a shift amount included.
-/

namespace ShadowTaint

/-- The width of a single load or store. -/
inductive Width
  | byte | half | word
  deriving DecidableEq, Inhabited

namespace Width

/-- The number of bytes an access of this width covers. -/
def bytes : Width -> Nat
  | byte => 1
  | half => 2
  | word => 4

/-- The name of a width. -/
def name : Width -> String
  | byte => "byte"
  | half => "half"
  | word => "word"

/-- The width with a given name. -/
def ofName? : String -> Option Width
  | "byte" => some byte
  | "half" => some half
  | "word" => some word
  | _ => none

@[simp] theorem ofName?_name (width : Width) : ofName? width.name = some width := by
  cases width <;> rfl

theorem bytes_le_four (width : Width) : width.bytes ≤ 4 := by
  cases width <;> decide

theorem bytes_pos (width : Width) : 0 < width.bytes := by
  cases width <;> decide

end Width

/-- How far a shifted register is shifted. -/
inductive ShiftAmount
  | immediate (amount : UInt8)
  | register (reg : Reg)
  deriving DecidableEq

/-- A source operand of a data-processing instruction. -/
inductive Operand
  | register (reg : Reg)
  | immediate (value : Int64)
  | shifted (reg : Reg) (amount : ShiftAmount)
  deriving DecidableEq

namespace Operand

/-- The registers whose values flow into the operand. -/
def regs : Operand -> List Reg
  | register reg => [reg]
  | immediate _ => []
  | shifted reg (.immediate _) => [reg]
  | shifted reg (.register amount) => [reg, amount]

/-- The operand is an immediate. -/
def isImmediate : Operand -> Bool
  | immediate _ => true
  | _ => false

/-- The register of a plain register operand. -/
def plainRegister? : Operand -> Option Reg
  | register reg => some reg
  | _ => none

/-- The value of an immediate. -/
def immediate? : Operand -> Option Int64
  | immediate value => some value
  | _ => none

@[simp] theorem regs_immediate (value : Int64) : (immediate value).regs = [] := rfl

@[simp] theorem regs_register (reg : Reg) : (register reg).regs = [reg] := rfl

theorem regs_eq_nil_iff {operand : Operand} :
    operand.regs = [] ↔ operand.isImmediate = true := by
  cases operand with
  | register reg => simp [regs, isImmediate]
  | immediate value => simp [isImmediate]
  | shifted reg amount => cases amount <;> simp [regs, isImmediate]

end Operand
end ShadowTaint
