import ShadowTaint.Reached
import ShadowTaint.Shadow.Page

/-!
# Shadow memory

Shadow memory keeps one label per byte of a contiguous range of addresses. It is
a table of pages, one entry for each 64 KiB of the range, the last of which may
be partial. An entry is empty until the first nonzero label is stored into its
page, and a page is never released.

Every access names a range of addresses and begins with a check that the range
is mapped. What follows works on offsets from the base address: by whole words
where the offset is aligned to the access, else label by label, since only then
may an access straddle two words or two pages. A store may be stopped midway by
a fault, so it answers with the memory that it reached.
-/

namespace ShadowTaint

/-- The number of entries of the page table for a number of addresses. -/
def pageCount (size : Nat) : Nat := (size + pageSize - 1) / pageSize

/-- Shadow memory of the addresses from `base` on. -/
structure Memory where
  base : UInt32
  /-- The number of mapped addresses. -/
  size : Nat
  /-- The page table; a page that was never stored into is absent. -/
  pages : Array (Option Page)
  base_add_size_le : base.toNat + size ≤ UInt32.size
  size_pages : pages.size = pageCount size

namespace Memory

/-- Clean shadow memory for a range of addresses. -/
def create (base : UInt32) (size : UInt64) : Except Fault Memory :=
  if inside : base.toNat + size.toNat ≤ UInt32.size then
    .ok {
      base := base
      size := size.toNat
      pages := Array.replicate (pageCount size.toNat) none
      base_add_size_le := inside
      size_pages := Array.size_replicate }
  else if base.toNat + size.toNat < UInt64.size then
    .error (.shadowRange base.toNat (base.toNat + size.toNat))
  else .error (.overflow .addition)

/-! ## The page table -/

/-- The entry of the page table for an offset. -/
def page? (memory : Memory) (offset : Nat) : Except Fault (Option Page) :=
  match memory.pages[offset / pageSize]? with
  | some page? => .ok page?
  | none => .error (.pageNumber (offset / pageSize) memory.pages.size)

/-- The page of an offset has been allocated. -/
def isAllocated (memory : Memory) (offset : Nat) : Except Fault Bool :=
  match memory.page? offset with
  | .ok page? => .ok page?.isSome
  | .error fault => .error fault

/-- The number of allocated pages. -/
def allocatedPages (memory : Memory) : Nat := memory.pages.countP Option.isSome

/-- Change the page of an offset, which is allocated if it is absent. -/
def changePage (memory : Memory) (offset : Nat) (change : Page -> Page) :
    Reached Fault Memory Unit :=
  match memory with
  | ⟨base, size, pages, inside, counted⟩ =>
      let number := offset / pageSize
      let count := pages.size
      if number < count then
        .done ⟨base, size,
          pages.modify number fun page? => some (change (page?.getD Page.clean)),
          inside, Array.size_modify.trans counted⟩ ()
      else .stopped ⟨base, size, pages, inside, counted⟩ (.pageNumber number count)

/-! ## Labels and words by offset -/

/-- The word that holds an offset. -/
def loadWord (memory : Memory) (offset : Nat) : Except Fault UInt32 :=
  match memory.page? offset with
  | .ok (some page) => .ok (page.word (wordIndex offset))
  | .ok none => .ok 0
  | .error fault => .error fault

/-- The label at an offset. -/
def loadLabel (memory : Memory) (offset : Nat) : Except Fault UInt8 :=
  match memory.loadWord offset with
  | .ok word => .ok (LabelWord.label word (laneIndex offset))
  | .error fault => .error fault

/-- The labels at a number of consecutive offsets. -/
def loadLabels (memory : Memory) (offset : Nat) (length : Nat) :
    Except Fault (List UInt8) :=
  (List.range length).mapM fun position => memory.loadLabel (offset + position)

/-- Replace the bits under a mask in the word that holds an offset. Zero bits are
not worth a page. -/
def storeMasked (memory : Memory) (offset : Nat) (mask bits : UInt32) :
    Reached Fault Memory Unit :=
  match memory.isAllocated offset with
  | .ok allocated =>
      if bits = 0 ∧ ¬allocated then .done memory ()
      else memory.changePage offset fun page => page.replace (wordIndex offset) mask bits
  | .error fault => .stopped memory fault

/-- Store the label at an offset. -/
def storeLabel (memory : Memory) (offset : Nat) (label : UInt8) :
    Reached Fault Memory Unit :=
  let shift := LabelWord.shift (laneIndex offset)
  memory.storeMasked offset (0xff <<< shift) (label.toUInt32 <<< shift)

/-- Store the labels at consecutive offsets. -/
def storeLabels (memory : Memory) (offset : Nat) : List UInt8 -> Reached Fault Memory Unit
  | [] => .done memory ()
  | label :: rest =>
      (memory.storeLabel offset label).andThen fun memory _ =>
        memory.storeLabels (offset + 1) rest

/-- The offset behind the last one of a range that lies in the page of its first. -/
def chunkEnd (offset past : Nat) : Nat := min ((offset / pageSize + 1) * pageSize) past

theorem lt_chunkEnd {offset past : Nat} (nonempty : offset < past) :
    offset < chunkEnd offset past :=
  Nat.lt_min.2 ⟨Nat.lt_mul_of_div_lt (Nat.lt_succ_self _) pageSize_pos, nonempty⟩

/-- Store one label at the offsets from one up to another, page by page. The label
zero passes over absent pages. -/
def fillLabels (memory : Memory) (offset past : Nat) (label : UInt8) :
    Reached Fault Memory Unit :=
  if nonempty : offset < past then
    have := lt_chunkEnd nonempty
    match memory.isAllocated offset with
    | .ok allocated =>
        if label = 0 ∧ ¬allocated then memory.fillLabels (chunkEnd offset past) past label
        else
          (memory.changePage offset fun page =>
            page.fill offset (chunkEnd offset past) label).andThen fun memory _ =>
              memory.fillLabels (chunkEnd offset past) past label
    | .error fault => .stopped memory fault
  else .done memory ()
termination_by past - offset

/-- Some label at the offsets from one up to another is not zero. -/
def anyLabel (memory : Memory) (offset past : Nat) : Except Fault Bool :=
  if nonempty : offset < past then
    have := lt_chunkEnd nonempty
    match memory.page? offset with
    | .ok (some page) =>
        if page.anyTainted offset (chunkEnd offset past) then .ok true
        else memory.anyLabel (chunkEnd offset past) past
    | .ok none => memory.anyLabel (chunkEnd offset past) past
    | .error fault => .error fault
  else .ok false
termination_by past - offset

/-! ## Accesses by address -/

/-- Every address of a range is mapped. -/
def contains (memory : Memory) (address : UInt32) (length : Nat) : Bool :=
  memory.base.toNat ≤ address.toNat &&
    address.toNat - memory.base.toNat + length ≤ memory.size

/-- The offset of a mapped range. -/
def locate (memory : Memory) (address : UInt32) (length : Nat) : Except Fault Nat :=
  if memory.contains address length then .ok (address.toNat - memory.base.toNat)
  else .error (.shadowAccess address.toNat (address.toNat + length)
    memory.base.toNat (memory.base.toNat + memory.size))

/-- The label of one address. -/
def get (memory : Memory) (address : UInt32) : Except Fault UInt8 := do
  let offset ← memory.locate address 1
  memory.loadLabel offset

/-- Store the label of one address. -/
def store (memory : Memory) (address : UInt32) (label : UInt8) :
    Reached Fault Memory Unit :=
  match memory.locate address 1 with
  | .ok offset => memory.storeLabel offset label
  | .error fault => .stopped memory fault

/-- The labels of an access, in lanes from the lowest address on; lanes beyond
the width are clean. -/
def read (memory : Memory) (address : UInt32) (width : Width) : Except Fault Lanes := do
  let offset ← memory.locate address width.bytes
  if offset % width.bytes = 0 then
    let word ← memory.loadWord offset
    return (Lanes.ofWord (word >>> LabelWord.shift (laneIndex offset))).truncate width
  else
    let labels ← memory.loadLabels offset width.bytes
    return Lanes.ofList labels

/-- Store the lanes that an access of the given width covers. -/
def storeLanes (memory : Memory) (address : UInt32) (width : Width) (lanes : Lanes) :
    Reached Fault Memory Unit :=
  match memory.locate address width.bytes with
  | .ok offset =>
      if offset % width.bytes = 0 then
        let shift := LabelWord.shift (laneIndex offset)
        memory.storeMasked offset (LabelWord.mask width <<< shift)
          ((lanes.truncate width).toWord <<< shift)
      else memory.storeLabels offset (lanes.toList.take width.bytes)
  | .error fault => .stopped memory fault

/-- Store one label at every address of a range. -/
def storeRange (memory : Memory) (address length : UInt32) (label : UInt8) :
    Reached Fault Memory Unit :=
  if length = 0 then .done memory ()
  else
    match memory.locate address length.toNat with
    | .ok offset => memory.fillLabels offset (offset + length.toNat) label
    | .error fault => .stopped memory fault

/-- Some address of a range is tainted. -/
def isTainted (memory : Memory) (address length : UInt32) : Except Fault Bool :=
  if length = 0 then .ok false
  else do
    let offset ← memory.locate address length.toNat
    memory.anyLabel offset (offset + length.toNat)

/-- The labels of a range. -/
def slice (memory : Memory) (address length : UInt32) : Except Fault (List UInt8) :=
  if length = 0 then .ok []
  else do
    let offset ← memory.locate address length.toNat
    memory.loadLabels offset length.toNat

/-! ## Stores as functions

For a caller that keeps the memory from before the store when it is a fault. -/

/-- The memory with the label of one address stored. -/
def set (memory : Memory) (address : UInt32) (label : UInt8) : Except Fault Memory :=
  (memory.store address label).final

/-- The memory with the lanes of an access stored. -/
def write (memory : Memory) (address : UInt32) (width : Width) (lanes : Lanes) :
    Except Fault Memory :=
  (memory.storeLanes address width lanes).final

/-- The memory with one label stored at every address of a range. -/
def fill (memory : Memory) (address length : UInt32) (label : UInt8) :
    Except Fault Memory :=
  (memory.storeRange address length label).final

/-- The memory with every address of a range clean. -/
def clean (memory : Memory) (address length : UInt32) : Except Fault Memory :=
  memory.fill address length 0

/-- The extent of the memory and how much of it is allocated. -/
def text (memory : Memory) : String :=
  "TaintableMemory \x7b base: " ++ toString memory.base ++
    ", size: " ++ toString memory.size ++
    ", allocated_pages: " ++ toString memory.allocatedPages ++ " \x7d"

end Memory
end ShadowTaint
