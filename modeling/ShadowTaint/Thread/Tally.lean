import ShadowTaint.Arch.Opcode

/-!
# Tallies of opcodes

A tally counts how often each opcode was met. Counts of two tallies add up, and
an opcode that was never met has no entry.
-/

namespace ShadowTaint

/-- A count for every opcode. -/
@[ext] structure Tally where
  counts : Vector Nat Opcode.count
  deriving DecidableEq

namespace Tally

/-- Nothing was met. -/
def empty : Tally := ⟨Vector.replicate Opcode.count 0⟩

instance : Inhabited Tally := ⟨empty⟩

/-- How often an opcode was met. -/
def countOf (tally : Tally) (opcode : Opcode) : Nat := tally.counts[opcode.index]

/-- Count one more opcode. -/
def add (tally : Tally) (opcode : Opcode) : Tally :=
  ⟨tally.counts.set opcode.index (tally.countOf opcode + 1)⟩

/-- The counts of both tallies together. -/
def merge (left right : Tally) : Tally :=
  ⟨Vector.zipWith (· + ·) left.counts right.counts⟩

/-- The opcodes that were met, in declaration order, with their counts. -/
def entries (tally : Tally) : List (Opcode × Nat) :=
  (Opcode.all.map fun opcode => (opcode, tally.countOf opcode)).filter fun entry =>
    entry.2 != 0

@[simp] theorem countOf_empty (opcode : Opcode) : empty.countOf opcode = 0 := by
  simp [countOf, empty]

@[simp] theorem countOf_merge (left right : Tally) (opcode : Opcode) :
    (left.merge right).countOf opcode = left.countOf opcode + right.countOf opcode := by
  simp [countOf, merge]

end Tally
end ShadowTaint
