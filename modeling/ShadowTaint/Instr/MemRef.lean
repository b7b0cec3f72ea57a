import ShadowTaint.Arch.Context

/-!
# Memory operands

A single or dual load or store addresses memory through a base register and an
offset, which is a shifted index register or a constant. The addressing mode
says whether the offset takes part in the access, and whether it is added to
the base register. Addresses are computed modulo two to the thirty-second from
the register values before the instruction.
-/

namespace ShadowTaint

/-- How the offset of a memory operand is used. -/
inductive AddressMode
  /-- The access is at base plus offset, and the base is kept. -/
  | offset
  /-- The access is at base plus offset, which becomes the base. -/
  | preIndexed
  /-- The access is at the base, which then becomes base plus offset. -/
  | postIndexed
  deriving DecidableEq, Inhabited

namespace AddressMode

/-- The base register is updated. -/
def writesBack : AddressMode -> Bool
  | offset => false
  | preIndexed | postIndexed => true

/-- The offset takes part in the address of the access. -/
def appliesOffset : AddressMode -> Bool
  | offset | preIndexed => true
  | postIndexed => false

/-- The name of an addressing mode. -/
def name : AddressMode -> String
  | offset => "offset"
  | preIndexed => "pre_indexed"
  | postIndexed => "post_indexed"

/-- The addressing mode with a given name. -/
def ofName? : String -> Option AddressMode
  | "offset" => some offset
  | "pre_indexed" => some preIndexed
  | "post_indexed" => some postIndexed
  | _ => none

@[simp] theorem ofName?_name (mode : AddressMode) : ofName? mode.name = some mode := by
  cases mode <;> rfl

end AddressMode

/-- The memory operand of a single or dual load or store. -/
structure MemRef where
  base : Reg
  index : Option Reg
  /-- How far the index is shifted to the left; the low five bits count. -/
  shift : UInt8
  /-- The index is subtracted from the base. -/
  subtract : Bool
  /-- The offset of an operand without an index register. -/
  displacement : Int32
  mode : AddressMode
  deriving DecidableEq

namespace MemRef

/-- The index register, if it takes part in the address of the access. -/
def addressIndex? (mem : MemRef) : Option Reg :=
  if mem.mode.appliesOffset then mem.index else none

/-- The registers on whose values the address of the access depends. -/
def addressRegs (mem : MemRef) : List Reg := mem.base :: mem.addressIndex?.toList

/-- The offset of the operand. -/
def offset (mem : MemRef) (context : Context) : UInt32 :=
  match mem.index with
  | some index =>
      let scaled := context.value index <<< (mem.shift.toUInt32 &&& 31)
      if mem.subtract then -scaled else scaled
  | none => mem.displacement.toUInt32

/-- The address of the access. -/
def address (mem : MemRef) (context : Context) : UInt32 :=
  if mem.mode.appliesOffset then context.value mem.base + mem.offset context
  else context.value mem.base

/-- Two contexts that agree on the address registers give the same address. -/
theorem address_congr (mem : MemRef) (first second : Context)
    (agree : ∀ reg ∈ mem.addressRegs, first.value reg = second.value reg) :
    mem.address first = mem.address second := by
  have base := agree mem.base (by simp [addressRegs])
  unfold address offset
  cases applies : mem.mode.appliesOffset with
  | false => simpa using base
  | true =>
      cases found : mem.index with
      | none => simp [base]
      | some index =>
          have same := agree index (by simp [addressRegs, addressIndex?, applies, found])
          simp [base, same]

end MemRef
end ShadowTaint
