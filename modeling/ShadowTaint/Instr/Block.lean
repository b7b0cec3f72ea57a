import ShadowTaint.Arch.RegList
import ShadowTaint.Number.Word

/-!
# Block transfers

A block transfer moves a list of registers to or from consecutive words. The
mode says where the words lie relative to the base address; the lowest register
is always at the lowest address. With writeback, a base register that is itself
listed is not transferred, and a setting decides what happens to the registers
after it. Leaving registers out never moves the slots of the others.
-/

namespace ShadowTaint

/-- Where the words of a block transfer lie relative to the base address. -/
inductive BlockMode
  | incrementAfter | incrementBefore | decrementAfter | decrementBefore
  deriving DecidableEq, Inhabited

/-- Which registers a block transfer with writeback moves when its base register
is listed. -/
inductive Exclusion
  /-- Only the registers before the base register. -/
  | stopAtBase
  /-- Every register but the base register. -/
  | skipBase
  deriving DecidableEq, Inhabited

namespace BlockMode

/-- The suffix that names a mode. -/
def name : BlockMode -> String
  | incrementAfter => "ia"
  | incrementBefore => "ib"
  | decrementAfter => "da"
  | decrementBefore => "db"

/-- The mode with a given suffix. -/
def ofName? : String -> Option BlockMode
  | "ia" => some incrementAfter
  | "ib" => some incrementBefore
  | "da" => some decrementAfter
  | "db" => some decrementBefore
  | _ => none

@[simp] theorem ofName?_name (mode : BlockMode) : ofName? mode.name = some mode := by
  cases mode <;> rfl

/-- The address of one slot of a transfer of `count` words. -/
def slotAddress (mode : BlockMode) (base : UInt32) (slot count : Nat) : UInt32 :=
  match mode with
  | incrementAfter => base + UInt32.ofNat (4 * slot)
  | incrementBefore => base + UInt32.ofNat (4 * (slot + 1))
  | decrementAfter => base - UInt32.ofNat (4 * (count - slot - 1))
  | decrementBefore => base - UInt32.ofNat (4 * (count - slot))

/-- How far a slot is from the base address. -/
def slotDistance (mode : BlockMode) (slot count : UInt32) : Except Fault UInt32 :=
  match mode with
  | incrementAfter => Word.multiply 4 slot
  | incrementBefore => do Word.multiply 4 (← Word.add slot 1)
  | decrementAfter => do Word.multiply 4 (← Word.subtract (← Word.subtract count slot) 1)
  | decrementBefore => do Word.multiply 4 (← Word.subtract count slot)

/-- An address at a distance from the base address. -/
def offset (mode : BlockMode) (base distance : UInt32) : UInt32 :=
  match mode with
  | incrementAfter | incrementBefore => base + distance
  | decrementAfter | decrementBefore => base - distance

/-- The address of one slot, for a caller that has to be told if there is no
such slot, or if its distance does not fit into a word. The numbers of slots are
cut to words. -/
def checkedSlotAddress (mode : BlockMode) (base : UInt32) (slot count : Nat) :
    Except Fault UInt32 :=
  if slot < count then
    (mode.slotDistance (UInt32.ofNat slot) (UInt32.ofNat count)).map (mode.offset base)
  else .error (.transferSlot slot count)

/-- As long as all distances fit into a word, checking changes no address. -/
theorem checkedSlotAddress_eq_ok (mode : BlockMode) (base : UInt32) (slot count : Nat)
    (inside : slot < count) (small : 4 * count < UInt32.size) :
    mode.checkedSlotAddress base slot count = .ok (mode.slotAddress base slot count) := by
  have one : (1 : UInt32) = UInt32.ofNat 1 := rfl
  have four : (4 : UInt32) = UInt32.ofNat 4 := rfl
  rw [checkedSlotAddress, if_pos inside]
  cases mode with
  | incrementAfter =>
      rw [slotDistance, four, Word.multiply_ofNat 4 slot (by omega) (by omega) (by omega)]
      rfl
  | incrementBefore =>
      rw [slotDistance, one, four, Word.add_ofNat slot 1 (by omega)]
      show Except.map _ (Word.multiply _ _) = _
      rw [Word.multiply_ofNat 4 (slot + 1) (by omega) (by omega) (by omega)]
      rfl
  | decrementAfter =>
      rw [slotDistance, one, four, Word.subtract_ofNat count slot (by omega) (by omega)]
      show Except.map _ (Word.subtract _ _ >>= _) = _
      rw [Word.subtract_ofNat (count - slot) 1 (by omega) (by omega)]
      show Except.map _ (Word.multiply _ _) = _
      rw [Word.multiply_ofNat 4 (count - slot - 1) (by omega) (by omega) (by omega)]
      rfl
  | decrementBefore =>
      rw [slotDistance, four, Word.subtract_ofNat count slot (by omega) (by omega)]
      show Except.map _ (Word.multiply _ _) = _
      rw [Word.multiply_ofNat 4 (count - slot) (by omega) (by omega) (by omega)]
      rfl

end BlockMode

namespace Exclusion

/-- The name of an exclusion. -/
def name : Exclusion -> String
  | stopAtBase => "stop_at_base"
  | skipBase => "skip_base"

/-- The exclusion with a given name. -/
def ofName? : String -> Option Exclusion
  | "stop_at_base" => some stopAtBase
  | "skip_base" => some skipBase
  | _ => none

@[simp] theorem ofName?_name (exclusion : Exclusion) :
    ofName? exclusion.name = some exclusion := by
  cases exclusion <;> rfl

/-- The slots that remain when the base register is listed. -/
def keep (exclusion : Exclusion) (base : Reg) (slots : List (Reg × UInt32)) :
    List (Reg × UInt32) :=
  match exclusion with
  | stopAtBase => slots.takeWhile fun slot => slot.1 != base
  | skipBase => slots.filter fun slot => slot.1 != base

end Exclusion

/-- A block transfer: its mode, base register, register list, and whether the
base register is updated. -/
structure BlockTransfer where
  mode : BlockMode
  base : Reg
  regs : RegList
  writeback : Bool
  deriving DecidableEq

namespace BlockTransfer

/-- Every listed register with the address of its slot, in ascending order. -/
def slots (block : BlockTransfer) (baseAddress : UInt32) : List (Reg × UInt32) :=
  block.regs.toList.mapIdx fun slot reg =>
    (reg, block.mode.slotAddress baseAddress slot block.regs.size)

/-- The registers the transfer moves, with the addresses of their slots. -/
def transferred (block : BlockTransfer) (exclusion : Exclusion) (baseAddress : UInt32) :
    List (Reg × UInt32) :=
  if block.writeback && block.regs.contains block.base then
    exclusion.keep block.base (block.slots baseAddress)
  else
    block.slots baseAddress

@[simp] theorem slots_regs (block : BlockTransfer) (baseAddress : UInt32) :
    (block.slots baseAddress).map Prod.fst = block.regs.toList := by
  apply List.ext_getElem
  · simp [slots]
  · intro position _ _
    simp [slots]

end BlockTransfer
end ShadowTaint
