import ShadowTaint.Shadow.Memory

/-!
# Control requests

The program under analysis can mark, clear and query taint itself. It calls
`write` on one of three descriptors that no program uses otherwise; the buffer
of the call is the range that is meant. Such a call never reaches the kernel.
Its result is a fixed status, except that a query of a clean range answers zero.
-/

namespace ShadowTaint

/-- What a control request asks for. -/
inductive ControlKind
  | taint | clear | query
  deriving DecidableEq, Inhabited

namespace ControlKind

/-- The name of a kind of request. -/
def name : ControlKind -> String
  | taint => "taint"
  | clear => "clear"
  | query => "query"

/-- The descriptor that stands for a kind of request. -/
def descriptor : ControlKind -> UInt32
  | taint => 0xFFFFEEEE
  | clear => 0xFFFFEEED
  | query => 0xFFFFEEEF

/-- The kind of request that a descriptor stands for. -/
def ofDescriptor? (descriptor : UInt32) : Option ControlKind :=
  [taint, clear, query].find? fun kind => kind.descriptor == descriptor

@[simp] theorem ofDescriptor?_descriptor (kind : ControlKind) :
    ofDescriptor? kind.descriptor = some kind := by
  cases kind <;> decide

end ControlKind

/-- A request about a range of memory. -/
structure ControlRequest where
  kind : ControlKind
  address : UInt32
  length : UInt32
  deriving DecidableEq

namespace ControlRequest

/-- The number of the system call that carries requests. -/
def writeCall : UInt32 := 4

/-- The result of a served request. -/
def servedStatus : UInt32 := 0xAA

/-- The request that a system call carries, from its number and the values of
its argument registers. -/
def ofCall? (number : UInt32) : List UInt32 -> Option ControlRequest
  | descriptor :: address :: length :: _ =>
      if number = writeCall then
        (ControlKind.ofDescriptor? descriptor).map (⟨·, address, length⟩)
      else none
  | _ => none

/-- Serve a request: the memory after it, and the result of the call. -/
def serve (request : ControlRequest) (memory : Memory) (label : UInt8) :
    Except Fault (Memory × UInt32) :=
  match request.kind with
  | .taint => do
      let marked ← memory.fill request.address request.length label
      return (marked, servedStatus)
  | .clear => do
      let cleared ← memory.clean request.address request.length
      return (cleared, servedStatus)
  | .query => do
      let tainted ← memory.isTainted request.address request.length
      return (memory, if tainted then servedStatus else 0)

end ControlRequest
end ShadowTaint
