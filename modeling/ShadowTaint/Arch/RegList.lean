import ShadowTaint.Arch.Reg

/-!
# Register lists

A block transfer names a set of registers. The set is one bit per register, as
in the instruction encoding, and it is listed in ascending order because that
is the order of the registers in memory.
-/

namespace ShadowTaint

/-- A set of registers; bit `n` stands for register number `n`. -/
structure RegList where
  bits : BitVec 16
  deriving DecidableEq, Inhabited

namespace RegList

/-- The list without registers. -/
def empty : RegList := ⟨0⟩

/-- A register is listed. -/
def contains (list : RegList) (reg : Reg) : Bool := list.bits.getLsbD reg.index

/-- Add a register. -/
def insert (list : RegList) (reg : Reg) : RegList :=
  ⟨list.bits ||| BitVec.twoPow 16 reg.index⟩

/-- The list of the given registers. -/
def ofList (regs : List Reg) : RegList := regs.foldl insert empty

/-- The listed registers in ascending order. -/
def toList (list : RegList) : List Reg := Reg.all.filter list.contains

/-- The number of listed registers, counted on the bits. -/
def size (list : RegList) : Nat := (List.range 16).countP list.bits.getLsbD

/-- No register is listed. -/
def isEmpty (list : RegList) : Bool := list.bits == 0

instance : Membership Reg RegList where
  mem list reg := list.contains reg = true

theorem mem_iff {list : RegList} {reg : Reg} : reg ∈ list ↔ list.contains reg = true :=
  Iff.rfl

@[simp] theorem contains_empty (reg : Reg) : empty.contains reg = false := by
  simp [contains, empty]

@[simp] theorem contains_insert (list : RegList) (added reg : Reg) :
    (list.insert added).contains reg = (list.contains reg || decide (reg = added)) := by
  have bounded := reg.index_lt
  by_cases same : reg = added
  · subst same
    simp [contains, insert, bounded]
  · have different : added.index ≠ reg.index := by
      intro equal
      exact same (by cases reg; cases added; simp_all [Reg.index, Fin.ext_iff])
    simp [contains, insert, BitVec.getLsbD_twoPow, same, different]

@[simp] theorem mem_toList {list : RegList} {reg : Reg} :
    reg ∈ list.toList ↔ list.contains reg = true := by
  simp [toList]

end RegList
end ShadowTaint
