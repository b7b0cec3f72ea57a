/-!
# Contract violations

An operation that is called outside its contract stops with a fault. A fault
carries what was violated, and `Fault.message` words it.
-/

namespace ShadowTaint

/-- The operations of arithmetic whose result may leave the range of its type. -/
inductive Arithmetic
  | addition | subtraction | multiplication | negation
  deriving DecidableEq

namespace Arithmetic

/-- The verb for an operation. -/
def verb : Arithmetic -> String
  | addition => "add"
  | subtraction => "subtract"
  | multiplication => "multiply"
  | negation => "negate"

end Arithmetic

/-- A violated contract. -/
inductive Fault
  /-- A register number is not below sixteen. -/
  | registerNumber (number : Nat)
  /-- A lane number is not below four. -/
  | laneNumber (number : Nat)
  /-- A page number is not below the number of pages. -/
  | pageNumber (number count : Nat)
  /-- A block transfer has no slot of this number. -/
  | transferSlot (slot count : Nat)
  /-- Shadow memory does not fit into the address space. -/
  | shadowRange (first past : Nat)
  /-- The result of an operation has to be exact, and is out of range. -/
  | overflow (operation : Arithmetic)
  /-- An access leaves the mapped range of the shadow memory. -/
  | shadowAccess (first past mappedFirst mappedPast : Nat)
  /-- Both sources of an arithmetic instruction are immediate. -/
  | immediateSources (left right : Int)
  /-- A list would get too long to be held. -/
  | capacity
  /-- A text is cut within a character. -/
  | textBoundary (position : Nat)
  /-- A section of the settings that is needed could not be loaded. -/
  | configSection (name : String)
  deriving DecidableEq

namespace Fault

/-- A number in hexadecimal, with its base marked. -/
def hexadecimal (number : Nat) : String :=
  "0x" ++ String.ofList (Nat.toDigits 16 number)

/-- A half-open range in interval notation. -/
def interval (first past : Nat) : String :=
  "[" ++ hexadecimal first ++ ", " ++ hexadecimal past ++ ")"

/-- The wording of a fault. -/
def message : Fault -> String
  | registerNumber number =>
      "invalid register index " ++ toString number ++ " (expected 0..16)"
  | laneNumber number =>
      "index out of bounds: the len is 4 but the index is " ++ toString number
  | pageNumber number count =>
      "index out of bounds: the len is " ++ toString count ++ " but the index is " ++
        toString number
  | transferSlot slot count =>
      "block transfer slot " ++ toString slot ++ " out of " ++ toString count
  | shadowRange first past =>
      "shadow range " ++ interval first past ++ " exceeds the 32-bit address space"
  | overflow operation => "attempt to " ++ operation.verb ++ " with overflow"
  | shadowAccess first past mappedFirst mappedPast =>
      "shadow access " ++ interval first past ++
        " outside mapped range " ++ interval mappedFirst mappedPast
  | immediateSources left right =>
      "arithmetic with two immediate sources: Imm(" ++ toString left ++ "), Imm(" ++
        toString right ++ ")"
  | capacity => "capacity overflow"
  | textBoundary position =>
      "byte index " ++ toString position ++ " is not a char boundary"
  | configSection name => "failed to load config section " ++ name

end Fault

end ShadowTaint
