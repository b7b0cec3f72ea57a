import ShadowTaint.Shadow.Lanes

/-!
# Words of labels

Shadow memory keeps four labels in a word, the label of the lowest position in
the low byte. A store replaces the labels under a mask and keeps the others.
-/

namespace ShadowTaint
namespace LabelWord

/-- How far the label in a lane is from the low end of its word, in bits. -/
def shift (lane : Nat) : UInt32 := UInt32.ofNat (8 * lane)

/-- The label in a lane of a word. -/
def label (word : UInt32) (lane : Nat) : UInt8 := (word >>> shift lane).toUInt8

/-- The mask of the lowest labels that an access of the given width covers. -/
def mask : Width -> UInt32
  | .byte => 0xff
  | .half => 0xffff
  | .word => 0xffffffff

/-- Replace the bits of a word that are set in the mask. -/
def replace (word mask bits : UInt32) : UInt32 :=
  if mask = 0xffffffff then bits else (word &&& ~~~mask) ||| (bits &&& mask)

end LabelWord
end ShadowTaint
