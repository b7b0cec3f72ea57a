/-!
# Condition flags

The four condition flags live in the top four bits of the processor status
word. A flag word is kept as it was observed: only `Flags.ofStatus` discards
the status bits that are not flags.
-/

namespace ShadowTaint

/-- A word whose top four bits are the condition flags. -/
structure Flags where
  bits : UInt32
  deriving DecidableEq, Inhabited

namespace Flags

/-- No flag is set. -/
def clear : Flags := ⟨0⟩

/-- The negative flag, bit 31. -/
def negative : Flags := ⟨0x80000000⟩

/-- The zero flag, bit 30. -/
def zero : Flags := ⟨0x40000000⟩

/-- The carry flag, bit 29. -/
def carry : Flags := ⟨0x20000000⟩

/-- The overflow flag, bit 28. -/
def overflow : Flags := ⟨0x10000000⟩

/-- The condition flags of a status word; every other status bit is dropped. -/
def ofStatus (status : UInt32) : Flags := ⟨status &&& 0xF0000000⟩

/-- Every bit of the second word is set in the first one. -/
def contains (flags other : Flags) : Bool :=
  flags.bits &&& other.bits == other.bits

/-- The bits of either word. -/
def union (flags other : Flags) : Flags := ⟨flags.bits ||| other.bits⟩

/-- The negative flag is set. -/
def isNegative (flags : Flags) : Bool := flags.contains negative

/-- The zero flag is set. -/
def isZero (flags : Flags) : Bool := flags.contains zero

/-- The carry flag is set. -/
def isCarry (flags : Flags) : Bool := flags.contains carry

/-- The overflow flag is set. -/
def isOverflow (flags : Flags) : Bool := flags.contains overflow

/-- One letter per flag, in upper case when the flag is set. -/
def text (flags : Flags) : String :=
  let letter (isSet : Bool) (name : Char) : Char := if isSet then name.toUpper else name
  "Flags(" ++ String.ofList [
    letter flags.isNegative 'n', letter flags.isZero 'z',
    letter flags.isCarry 'c', letter flags.isOverflow 'v'] ++ ")"

@[simp] theorem bits_clear : clear.bits = 0 := rfl

@[simp] theorem bits_ofStatus (status : UInt32) :
    (ofStatus status).bits = status &&& 0xF0000000 := rfl

@[simp] theorem bits_union (flags other : Flags) :
    (flags.union other).bits = flags.bits ||| other.bits := rfl

end Flags
end ShadowTaint
