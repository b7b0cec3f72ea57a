import ShadowTaint.Shadow.Memory

/-!
# Plain maps of labels

A plain map gives a label to every address and is mapped over one range of them.
It is what shadow memory stands for: no pages, no words, and one clause for each
operation. An operation whose range is not mapped is a fault that changes nothing;
an empty range is mapped wherever it lies.
-/

namespace ShadowTaint

/-- A label for every address, of which a range is mapped. -/
@[ext] structure LabelMap where
  base : Nat
  size : Nat
  label : Nat -> UInt8

namespace LabelMap

/-- No address carries a label. -/
def clean (base size : Nat) : LabelMap := ⟨base, size, fun _ => 0⟩

/-- Every address of a range is mapped. -/
def Covers (map : LabelMap) (first length : Nat) : Prop :=
  length = 0 ∨ map.base ≤ first ∧ first + length ≤ map.base + map.size

instance (map : LabelMap) (first length : Nat) : Decidable (map.Covers first length) :=
  inferInstanceAs (Decidable (_ ∨ _))

/-- The labels of a range. -/
def slice (map : LabelMap) (first length : Nat) : List UInt8 :=
  (List.range length).map fun position => map.label (first + position)

/-- The labels of an access in lanes, the lowest address first, and clean beyond
its width. -/
def lanes (map : LabelMap) (first : Nat) (width : Width) : Lanes :=
  Lanes.ofList (map.slice first width.bytes)

/-- Some label of a range is not zero. -/
def isTainted (map : LabelMap) (first length : Nat) : Bool :=
  (map.slice first length).any fun label => label != 0

/-- Store labels at consecutive addresses. -/
def store (map : LabelMap) (first : Nat) (labels : List UInt8) : LabelMap :=
  { map with
    label := fun address =>
      if first ≤ address ∧ address < first + labels.length then
        labels.getD (address - first) 0
      else map.label address }

/-- Store the lanes that an access covers, the lowest lane first. -/
def storeLanes (map : LabelMap) (first : Nat) (width : Width) (lanes : Lanes) : LabelMap :=
  map.store first (lanes.toList.take width.bytes)

/-- Store one label at every address of a range. -/
def fill (map : LabelMap) (first length : Nat) (label : UInt8) : LabelMap :=
  { map with
    label := fun address =>
      if first ≤ address ∧ address < first + length then label else map.label address }

end LabelMap

/-- An operation on shadow memory. -/
inductive MemoryOperation
  | get (address : UInt32)
  | set (address : UInt32) (label : UInt8)
  | read (address : UInt32) (width : Width)
  | write (address : UInt32) (width : Width) (lanes : Lanes)
  /-- Store one label at every address of a range, as marking a range does. -/
  | fill (address length : UInt32) (label : UInt8)
  | clean (address length : UInt32)
  | isTainted (address length : UInt32)
  | slice (address length : UInt32)
  deriving DecidableEq

/-- What an operation on shadow memory answers. -/
inductive MemoryAnswer
  | stored
  | label (label : UInt8)
  | lanes (lanes : Lanes)
  | tainted (tainted : Bool)
  | labels (labels : List UInt8)
  deriving DecidableEq

namespace MemoryOperation

/-- The first address of the range that an operation names. -/
def first : MemoryOperation -> UInt32
  | get address | set address _ | read address _ | write address _ _ | fill address _ _
  | clean address _ | isTainted address _ | slice address _ => address

/-- The length of the range that an operation names. -/
def length : MemoryOperation -> Nat
  | get _ | set _ _ => 1
  | read _ width | write _ width _ => width.bytes
  | fill _ length _ | clean _ length | isTainted _ length | slice _ length => length.toNat

/-- The range of the operation is mapped. -/
def Inside (operation : MemoryOperation) (map : LabelMap) : Prop :=
  map.Covers operation.first.toNat operation.length

instance (operation : MemoryOperation) (map : LabelMap) :
    Decidable (operation.Inside map) :=
  inferInstanceAs (Decidable (map.Covers _ _))

/-- The fault of an operation whose range is not mapped. -/
def fault (operation : MemoryOperation) (map : LabelMap) : Fault :=
  .shadowAccess operation.first.toNat (operation.first.toNat + operation.length)
    map.base (map.base + map.size)

/-! ## On a plain map -/

/-- The map after an operation whose range is mapped. -/
def after (map : LabelMap) : MemoryOperation -> LabelMap
  | set address label => map.store address.toNat [label]
  | write address width lanes => map.storeLanes address.toNat width lanes
  | fill address length label => map.fill address.toNat length.toNat label
  | clean address length => map.fill address.toNat length.toNat 0
  | get _ | read _ _ | isTainted _ _ | slice _ _ => map

/-- The answer to an operation whose range is mapped. -/
def answer (map : LabelMap) : MemoryOperation -> MemoryAnswer
  | get address => .label (map.label address.toNat)
  | read address width => .lanes (map.lanes address.toNat width)
  | isTainted address length => .tainted (map.isTainted address.toNat length.toNat)
  | slice address length => .labels (map.slice address.toNat length.toNat)
  | set _ _ | write _ _ _ | fill _ _ _ | clean _ _ => .stored

/-- Perform an operation on a plain map. -/
def performPlain (operation : MemoryOperation) (map : LabelMap) :
    LabelMap × Except Fault MemoryAnswer :=
  if operation.Inside map then (operation.after map, .ok (operation.answer map))
  else (map, .error (operation.fault map))

/-- Perform operations on a plain map, going on after a fault. -/
def performAllPlain (map : LabelMap) :
    List MemoryOperation -> LabelMap × List (Except Fault MemoryAnswer)
  | [] => (map, [])
  | operation :: rest =>
      let (next, result) := operation.performPlain map
      let (last, results) := performAllPlain next rest
      (last, result :: results)

/-! ## On shadow memory -/

/-- The reached memory with a constant answer. -/
def storing (reached : Reached Fault Memory Unit) : Reached Fault Memory MemoryAnswer :=
  reached.andThen fun memory _ => .done memory .stored

/-- The answer to a query, which keeps the memory. -/
def asking
    (memory : Memory)
    (encode : Value -> MemoryAnswer)
    (result : Except Fault Value) : Reached Fault Memory MemoryAnswer :=
  ⟨memory, result.map encode⟩

/-- Perform an operation on shadow memory. -/
def perform (operation : MemoryOperation) (memory : Memory) :
    Reached Fault Memory MemoryAnswer :=
  match operation with
  | get address => asking memory .label (memory.get address)
  | set address label => storing (memory.store address label)
  | read address width => asking memory .lanes (memory.read address width)
  | write address width lanes => storing (memory.storeLanes address width lanes)
  | fill address length label => storing (memory.storeRange address length label)
  | clean address length => storing (memory.storeRange address length 0)
  | isTainted address length => asking memory .tainted (memory.isTainted address length)
  | slice address length => asking memory .labels (memory.slice address length)

/-- Perform operations on shadow memory, going on after a fault with the memory
that was reached. -/
def performAll (memory : Memory) :
    List MemoryOperation -> Memory × List (Except Fault MemoryAnswer)
  | [] => (memory, [])
  | operation :: rest =>
      let reached := operation.perform memory
      let (last, results) := performAll reached.state rest
      (last, reached.result :: results)

end MemoryOperation
end ShadowTaint
