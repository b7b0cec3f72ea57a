import ShadowTaint.Fault
import ShadowTaint.Instr.Operand

/-!
# Register taint

The taint of a 32-bit register is one label byte for each byte of the register.
A label is a set of eight independent bits, and the taint of data computed from
several sources is the bitwise union of theirs. Packed into a word, lane 0 is
the low byte.
-/

namespace ShadowTaint

/-- One taint label per byte of a register, the lowest byte first. -/
@[ext] structure Lanes where
  lane0 : UInt8
  lane1 : UInt8
  lane2 : UInt8
  lane3 : UInt8
  deriving DecidableEq

namespace Lanes

/-- No lane is tainted. -/
def clean : Lanes := ⟨0, 0, 0, 0⟩

instance : Inhabited Lanes := ⟨clean⟩

/-- Every lane carries the label. -/
def splat (label : UInt8) : Lanes := ⟨label, label, label, label⟩

/-- The lowest lane carries the label and the others are clean. -/
def ofByte (label : UInt8) : Lanes := ⟨label, 0, 0, 0⟩

/-- The labels, the lowest lane first. -/
def toList (lanes : Lanes) : List UInt8 :=
  [lanes.lane0, lanes.lane1, lanes.lane2, lanes.lane3]

/-- Lanes from labels, the lowest lane first; lanes without a label are clean. -/
def ofList (labels : List UInt8) : Lanes :=
  ⟨labels.getD 0 0, labels.getD 1 0, labels.getD 2 0, labels.getD 3 0⟩

/-- The lanes as one word. -/
def toWord (lanes : Lanes) : UInt32 :=
  lanes.lane0.toUInt32 ||| (lanes.lane1.toUInt32 <<< 8) |||
    (lanes.lane2.toUInt32 <<< 16) ||| (lanes.lane3.toUInt32 <<< 24)

/-- The lanes of a word. -/
def ofWord (word : UInt32) : Lanes :=
  ⟨word.toUInt8, (word >>> 8).toUInt8, (word >>> 16).toUInt8, (word >>> 24).toUInt8⟩

/-- The labels of either register, lane by lane. -/
def union (left right : Lanes) : Lanes :=
  ⟨left.lane0 ||| right.lane0, left.lane1 ||| right.lane1,
    left.lane2 ||| right.lane2, left.lane3 ||| right.lane3⟩

/-- Apply a relabelling to every lane. -/
def map (relabel : UInt8 -> UInt8) (lanes : Lanes) : Lanes :=
  ⟨relabel lanes.lane0, relabel lanes.lane1, relabel lanes.lane2, relabel lanes.lane3⟩

/-- Some lane carries a label. -/
def isTainted (lanes : Lanes) : Bool := lanes != clean

/-- Keep the lanes that an access of the given width covers. -/
def truncate (width : Width) (lanes : Lanes) : Lanes :=
  match width with
  | .byte => ⟨lanes.lane0, 0, 0, 0⟩
  | .half => ⟨lanes.lane0, lanes.lane1, 0, 0⟩
  | .word => lanes

/-- One lane by its number. -/
def lane (lanes : Lanes) (number : Nat) : Except Fault UInt8 :=
  match lanes.toList[number]? with
  | some label => .ok label
  | none => .error (.laneNumber number)

/-- The lanes in hexadecimal, the lowest first. -/
def text (lanes : Lanes) : String :=
  let digits (label : UInt8) : String :=
    String.ofList [Nat.digitChar (label.toNat / 16), Nat.digitChar (label.toNat % 16)]
  "RegTaint[" ++ " ".intercalate (lanes.toList.map digits) ++ "]"

@[simp] theorem union_clean (lanes : Lanes) : lanes.union clean = lanes := by
  simp [union, clean]

@[simp] theorem clean_union (lanes : Lanes) : clean.union lanes = lanes := by
  simp [union, clean]

theorem union_comm (left right : Lanes) : left.union right = right.union left := by
  simp [union, UInt8.or_comm]

theorem union_assoc (first second third : Lanes) :
    (first.union second).union third = first.union (second.union third) := by
  simp [union, UInt8.or_assoc]

@[simp] theorem union_self (lanes : Lanes) : lanes.union lanes = lanes := by
  simp [union]

@[simp] theorem isTainted_clean : clean.isTainted = false := rfl

theorem isTainted_eq_false_iff {lanes : Lanes} :
    lanes.isTainted = false ↔ lanes = clean := by
  simp [isTainted]

@[simp] theorem truncate_clean (width : Width) : clean.truncate width = clean := by
  cases width <;> rfl

@[simp] theorem truncate_union (width : Width) (left right : Lanes) :
    (left.union right).truncate width =
      (left.truncate width).union (right.truncate width) := by
  cases width <;> simp [truncate, union]

@[simp] theorem ofList_toList (lanes : Lanes) : ofList lanes.toList = lanes := rfl

end Lanes
end ShadowTaint
