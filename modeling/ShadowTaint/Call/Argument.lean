/-!
# Memory arguments of system calls

A tracer classifies the buffers that are passed to a system call by the
direction of the data. The kernel writes into the buffers for output, and a
successful call leaves data of its own there.
-/

namespace ShadowTaint

/-- The direction of the data in a buffer, as seen from the kernel's side. -/
inductive Direction
  | input | output | both
  deriving DecidableEq, Inhabited

namespace Direction

/-- The kernel writes into the buffer. -/
def isOutput : Direction -> Bool
  | input => false
  | output | both => true

/-- The name of a direction. -/
def name : Direction -> String
  | input => "in"
  | output => "out"
  | both => "in_out"

/-- The direction with a given name. -/
def ofName? : String -> Option Direction
  | "in" => some input
  | "out" => some output
  | "in_out" => some both
  | _ => none

@[simp] theorem ofName?_name (direction : Direction) :
    ofName? direction.name = some direction := by
  cases direction <;> rfl

end Direction

/-- A buffer that was passed to a system call. -/
structure MemoryArgument where
  direction : Direction
  address : UInt32
  length : UInt32
  deriving DecidableEq

/-- The return of a system call. -/
structure CallReturn where
  number : UInt32
  succeeded : Bool
  /-- The buffers of the call; absent if the tracer does not know the call. -/
  arguments : Option (List MemoryArgument)
  deriving DecidableEq

namespace CallReturn

/-- The buffers into which the kernel may have written, in order. -/
def outputs (call : CallReturn) : List MemoryArgument :=
  (call.arguments.getD []).filter fun argument => argument.direction.isOutput

theorem mem_outputs {call : CallReturn} {argument : MemoryArgument} :
    argument ∈ call.outputs ↔
      argument ∈ call.arguments.getD [] ∧ argument.direction.isOutput = true := by
  simp [outputs]

end CallReturn
end ShadowTaint
