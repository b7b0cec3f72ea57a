import ShadowTaint.Fault

/-!
# Exact arithmetic on words

Sums, differences and products of 32-bit words that have to be exact: one that
does not fit into a word is a fault. Where the exact result fits, it is the
result.
-/

namespace ShadowTaint
namespace Word

/-- The exact sum. -/
def add (left right : UInt32) : Except Fault UInt32 :=
  if left.toNat + right.toNat < UInt32.size then .ok (left + right)
  else .error (.overflow .addition)

/-- The exact difference. -/
def subtract (left right : UInt32) : Except Fault UInt32 :=
  if right.toNat ≤ left.toNat then .ok (left - right)
  else .error (.overflow .subtraction)

/-- The exact product. -/
def multiply (left right : UInt32) : Except Fault UInt32 :=
  if left.toNat * right.toNat < UInt32.size then .ok (left * right)
  else .error (.overflow .multiplication)

theorem add_ofNat (left right : Nat) (fits : left + right < UInt32.size) :
    add (UInt32.ofNat left) (UInt32.ofNat right) = .ok (UInt32.ofNat (left + right)) := by
  have leftFits : left < UInt32.size := by omega
  have rightFits : right < UInt32.size := by omega
  rw [add, UInt32.toNat_ofNat_of_lt' leftFits, UInt32.toNat_ofNat_of_lt' rightFits,
    if_pos fits, UInt32.ofNat_add]

theorem subtract_ofNat (left right : Nat) (fits : left < UInt32.size) (ordered : right ≤ left) :
    subtract (UInt32.ofNat left) (UInt32.ofNat right) = .ok (UInt32.ofNat (left - right)) := by
  have rightFits : right < UInt32.size := by omega
  rw [subtract, UInt32.toNat_ofNat_of_lt' fits, UInt32.toNat_ofNat_of_lt' rightFits,
    if_pos ordered, UInt32.ofNat_sub ordered]

theorem multiply_ofNat (left right : Nat) (leftFits : left < UInt32.size)
    (rightFits : right < UInt32.size) (fits : left * right < UInt32.size) :
    multiply (UInt32.ofNat left) (UInt32.ofNat right) = .ok (UInt32.ofNat (left * right)) := by
  rw [multiply, UInt32.toNat_ofNat_of_lt' leftFits, UInt32.toNat_ofNat_of_lt' rightFits,
    if_pos fits, UInt32.ofNat_mul]

end Word
end ShadowTaint
