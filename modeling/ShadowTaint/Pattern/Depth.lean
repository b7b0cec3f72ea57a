/-!
# Depths of patterns

Parts of a pattern nest, and how deep they may nest is limited. Parts that stand one
behind the other are on a level of their own, unless there is only one of them.
-/

namespace ShadowTaint
namespace Pattern

/-- How deep the parts of a pattern may nest. -/
def depthLimit : Nat := 250

/-- Parts that stand one behind the other: how many they are, and how deep the
deepest of them is. -/
structure Row where
  count : Nat
  deepest : Nat
  deriving DecidableEq

namespace Row

/-- No parts. -/
def empty : Row := ⟨0, 0⟩

/-- One more part. -/
def add (row : Row) (depth : Nat) : Row := ⟨row.count + 1, max row.deepest depth⟩

/-- A part that is there already gets deeper. -/
def deepen (row : Row) (depth : Nat) : Row := { row with deepest := max row.deepest depth }

/-- The depth of the row as a whole. -/
def depth (row : Row) : Nat := if row.count ≤ 1 then row.deepest else row.deepest + 1

@[simp] theorem depth_empty : empty.depth = 0 := rfl

@[simp] theorem depth_add_empty (depth : Nat) : (empty.add depth).depth = depth := by
  simp [Row.depth, add, empty]

end Row

/-- The depth of two sides that are combined, of which the left may be missing. -/
def combine (left : Option Nat) (right : Nat) : Nat :=
  match left with
  | some left => max left right + 1
  | none => right

end Pattern
end ShadowTaint
