import ShadowTaint.Proofs.Shadow.LabelMap
import ShadowTaint.Proofs.Shadow.Offsets

/-!
# Shadow memory refines a plain map of labels

`Memory.labels` is the plain map that shadow memory stands for. A read answers from
this map, and a store ends with a memory that stands for the changed map; both are
faults exactly when their range is not mapped, and then the memory is kept. Whole
histories of operations follow by induction.
-/

namespace ShadowTaint
namespace Memory

/-- The plain map that the memory stands for. -/
def labels (memory : Memory) : LabelMap where
  base := memory.base.toNat
  size := memory.size
  label := fun address =>
    if memory.base.toNat ≤ address then memory.labelAt (address - memory.base.toNat) else 0

/-- The fault of an access that is not mapped. -/
def accessFault (memory : Memory) (address : UInt32) (length : Nat) : Fault :=
  .shadowAccess address.toNat (address.toNat + length)
    memory.base.toNat (memory.base.toNat + memory.size)

/-- A store that runs to its end leaves a memory that stands for the map. -/
def LeavesMap (reached : Reached Fault Memory Unit) (map : LabelMap) : Prop :=
  ∃ after : Memory, reached = .done after () ∧ after.labels = map

variable {memory : Memory} {address length : UInt32} {width : Width}

theorem contains_iff (memory : Memory) (address : UInt32) (size : Nat) :
    memory.contains address size = true ↔
      memory.base.toNat ≤ address.toNat ∧
        address.toNat + size ≤ memory.base.toNat + memory.size := by
  simp only [contains, Bool.and_eq_true, decide_eq_true_eq]
  omega

/-- A mapped range is found at an offset within the memory. -/
theorem locate_ok
    {size : Nat}
    (covers : memory.labels.Covers address.toNat size)
    (nonempty : 0 < size) :
    ∃ offset, memory.locate address size = .ok offset ∧
      memory.base.toNat + offset = address.toNat ∧ offset + size ≤ memory.size := by
  obtain empty | ⟨lower, upper⟩ := covers
  · omega
  · change memory.base.toNat ≤ address.toNat at lower
    change address.toNat + size ≤ memory.base.toNat + memory.size at upper
    refine ⟨address.toNat - memory.base.toNat, ?_, by omega, by omega⟩
    rw [locate, if_pos ((memory.contains_iff address size).2 ⟨lower, upper⟩)]

theorem locate_error
    {size : Nat}
    (outside : ¬memory.labels.Covers address.toNat size) :
    memory.locate address size = .error (memory.accessFault address size) := by
  rw [locate, if_neg]
  · rfl
  · intro inside
    exact outside (.inr ((memory.contains_iff address size).1 inside))

theorem label_offset
    {offset position : Nat}
    (located : memory.base.toNat + offset = address.toNat) :
    memory.labels.label (address.toNat + position) = memory.labelAt (offset + position) := by
  simp only [labels]
  rw [if_pos (by omega)]
  congr 1
  omega

theorem slice_offset
    {offset : Nat}
    (located : memory.base.toNat + offset = address.toNat)
    (size : Nat) :
    memory.labels.slice address.toNat size =
      (List.range size).map fun position => memory.labelAt (offset + position) := by
  apply List.map_congr_left
  intro position _
  exact label_offset located

/-- What a store leaves by offset it leaves by address. -/
theorem Leaves.leavesMap
    {reached : Reached Fault Memory Unit}
    {byOffset : Nat -> UInt8}
    {map : LabelMap}
    (leaves : memory.Leaves reached byOffset)
    (base : map.base = memory.base.toNat)
    (size : map.size = memory.size)
    (below : ∀ position < memory.base.toNat, map.label position = 0)
    (above : ∀ offset, map.label (memory.base.toNat + offset) = byOffset offset) :
    LeavesMap reached map := by
  obtain ⟨after, result, sameBase, sameSize, agree⟩ := leaves
  refine ⟨after, result, LabelMap.ext ?_ ?_ ?_⟩
  · rw [base, ← sameBase]
    rfl
  · rw [size, ← sameSize]
    rfl
  · funext position
    simp only [labels, sameBase]
    by_cases inside : memory.base.toNat ≤ position
    · rw [if_pos inside, agree, ← above]
      congr 1
      omega
    · rw [if_neg inside, below position (by omega)]

/-! ## Reads -/

theorem get_ok (covers : memory.labels.Covers address.toNat 1) :
    memory.get address = .ok (memory.labels.label address.toNat) := by
  obtain ⟨offset, found, located, inside⟩ := locate_ok covers Nat.one_pos
  have here : memory.labels.label (address.toNat + 0) = memory.labelAt (offset + 0) :=
    label_offset located
  rw [get, found]
  show memory.loadLabel offset = _
  rw [loadLabel_eq (by omega)]
  exact congrArg Except.ok here.symm

theorem get_error (outside : ¬memory.labels.Covers address.toNat 1) :
    memory.get address = .error (memory.accessFault address 1) := by
  rw [get, locate_error outside]
  rfl

/-- An aligned access lies within one word. -/
theorem covered_of_aligned
    {offset : Nat}
    (aligned : offset % width.bytes = 0) :
    laneIndex offset + width.bytes ≤ 4 := by
  have lane : laneIndex offset = offset % 4 := rfl
  cases width <;> simp only [Width.bytes] at aligned ⊢ <;> omega

theorem read_ok (covers : memory.labels.Covers address.toNat width.bytes) :
    memory.read address width = .ok (memory.labels.lanes address.toNat width) := by
  obtain ⟨offset, found, located, inside⟩ := locate_ok covers width.bytes_pos
  have positive := width.bytes_pos
  rw [read, found, LabelMap.lanes, slice_offset located]
  show (if offset % width.bytes = 0 then _ else _) = _
  by_cases aligned : offset % width.bytes = 0
  · obtain ⟨word, loaded, value⟩ :=
      loadWord_eq width (show offset < memory.size by omega) (covered_of_aligned aligned)
    rw [if_pos aligned, loaded, ← value]
    rfl
  · rw [if_neg aligned, loadLabels_eq memory offset width.bytes inside]
    rfl

theorem read_error (outside : ¬memory.labels.Covers address.toNat width.bytes) :
    memory.read address width = .error (memory.accessFault address width.bytes) := by
  rw [read, locate_error outside]
  rfl

/-- An empty range is mapped. -/
theorem covers_zero (map : LabelMap) (first : Nat) : map.Covers first 0 := .inl rfl

theorem toNat_pos (nonzero : ¬length = 0) : 0 < length.toNat :=
  Nat.pos_of_ne_zero fun zero => nonzero (UInt32.toNat_inj.1 zero)

theorem isTainted_ok (covers : memory.labels.Covers address.toNat length.toNat) :
    memory.isTainted address length =
      .ok (memory.labels.isTainted address.toNat length.toNat) := by
  by_cases empty : length = 0
  · subst empty
    rfl
  · obtain ⟨offset, found, located, inside⟩ := locate_ok covers (toNat_pos empty)
    obtain ⟨tainted, result, meaning⟩ :=
      anyLabel_eq memory offset (offset + length.toNat) inside
    rw [isTainted, if_neg empty, found]
    show memory.anyLabel offset (offset + length.toNat) = _
    rw [result, LabelMap.isTainted, slice_offset located]
    congr 1
    rw [Bool.eq_iff_iff, meaning, List.any_map, List.any_eq_true]
    constructor
    · rintro ⟨position, lower, upper, here⟩
      refine ⟨position - offset, List.mem_range.2 (by omega), ?_⟩
      simpa [show offset + (position - offset) = position by omega] using here
    · rintro ⟨position, member, here⟩
      have inRange := List.mem_range.1 member
      exact ⟨offset + position, by omega, by omega, by simpa using here⟩

theorem isTainted_error (outside : ¬memory.labels.Covers address.toNat length.toNat) :
    memory.isTainted address length = .error (memory.accessFault address length.toNat) := by
  have nonzero : ¬length = 0 := fun empty => outside (empty ▸ covers_zero _ _)
  rw [isTainted, if_neg nonzero, locate_error outside]
  rfl

theorem slice_ok (covers : memory.labels.Covers address.toNat length.toNat) :
    memory.slice address length = .ok (memory.labels.slice address.toNat length.toNat) := by
  by_cases empty : length = 0
  · subst empty
    rfl
  · obtain ⟨offset, found, located, inside⟩ := locate_ok covers (toNat_pos empty)
    rw [slice, if_neg empty, found, slice_offset located]
    exact loadLabels_eq memory offset length.toNat inside

theorem slice_error (outside : ¬memory.labels.Covers address.toNat length.toNat) :
    memory.slice address length = .error (memory.accessFault address length.toNat) := by
  have nonzero : ¬length = 0 := fun empty => outside (empty ▸ covers_zero _ _)
  rw [slice, if_neg nonzero, locate_error outside]
  rfl

/-! ## Stores -/

theorem labels_below
    (memory : Memory)
    {position : Nat}
    (below : position < memory.base.toNat) :
    memory.labels.label position = 0 :=
  if_neg (Nat.not_le.2 below)

theorem labels_above (memory : Memory) (offset : Nat) :
    memory.labels.label (memory.base.toNat + offset) = memory.labelAt offset := by
  simp [labels]

theorem store_ok
    (label : UInt8)
    (covers : memory.labels.Covers address.toNat 1) :
    LeavesMap (memory.store address label) (memory.labels.store address.toNat [label]) := by
  obtain ⟨offset, found, located, inside⟩ := locate_ok covers Nat.one_pos
  rw [store, found]
  refine (storeLabel_leaves label (by omega)).leavesMap rfl rfl ?_ ?_
  · intro position below
    show (if _ then _ else _) = _
    rw [if_neg (by omega), labels_below _ below]
  · intro position
    show (if _ then _ else _) = _
    rw [labels_above, List.length_singleton]
    by_cases here : position = offset
    · rw [if_pos (by omega), if_pos here, here, located, Nat.sub_self]
      rfl
    · rw [if_neg (by omega), if_neg here]

theorem store_error
    (label : UInt8)
    (outside : ¬memory.labels.Covers address.toNat 1) :
    memory.store address label = .stopped memory (memory.accessFault address 1) := by
  rw [store, locate_error outside]

/-- The lanes that an access covers. -/
theorem length_take_lanes (lanes : Lanes) (width : Width) :
    (lanes.toList.take width.bytes).length = width.bytes := by
  cases width <;> rfl

/-- Cut lanes agree with the lanes that the access covers. -/
theorem label_truncate
    (lanes : Lanes)
    (width : Width)
    {lane : Nat}
    (covered : lane < width.bytes) :
    LabelWord.label (lanes.truncate width).toWord lane =
      (lanes.toList.take width.bytes).getD lane 0 := by
  have bounded := width.bytes_le_four
  rw [LabelWord.label_toWord _ (by omega)]
  cases width with
  | byte =>
      match lane, covered with
      | 0, _ => rfl
  | half =>
      match lane, covered with
      | 0, _ | 1, _ => rfl
  | word => rfl

/-- A store of lanes by offset, whether it is aligned or not. -/
theorem storeLanes_leaves
    {offset : Nat}
    (lanes : Lanes)
    (found : memory.locate address width.bytes = .ok offset)
    (inside : offset + width.bytes ≤ memory.size) :
    memory.Leaves (memory.storeLanes address width lanes) fun position =>
      if offset ≤ position ∧ position < offset + width.bytes then
        (lanes.toList.take width.bytes).getD (position - offset) 0
      else memory.labelAt position := by
  have positive := width.bytes_pos
  rw [storeLanes, found]
  dsimp only
  by_cases aligned : offset % width.bytes = 0
  · rw [if_pos aligned]
    refine (storeAccess_leaves width _ (by omega) (covered_of_aligned aligned)).congr
      fun position => ?_
    by_cases here : offset ≤ position ∧ position < offset + width.bytes
    · rw [if_pos here, if_pos here, label_truncate lanes width (by omega)]
    · rw [if_neg here, if_neg here]
  · rw [if_neg aligned]
    have count := length_take_lanes lanes width
    refine (storeLabels_leaves memory offset _ (by omega)).congr fun position => ?_
    rw [count]

theorem storeLanes_ok
    (lanes : Lanes)
    (covers : memory.labels.Covers address.toNat width.bytes) :
    LeavesMap (memory.storeLanes address width lanes)
      (memory.labels.storeLanes address.toNat width lanes) := by
  obtain ⟨offset, found, located, inside⟩ := locate_ok covers width.bytes_pos
  refine (storeLanes_leaves lanes found inside).leavesMap rfl rfl ?_ ?_
  · intro position below
    show (if _ then _ else _) = _
    rw [if_neg (by omega), labels_below _ below]
  · intro position
    show (if _ then _ else _) = _
    rw [labels_above, length_take_lanes]
    by_cases here : offset ≤ position ∧ position < offset + width.bytes
    · rw [if_pos (by omega), if_pos here]
      congr 1
      omega
    · rw [if_neg (by omega), if_neg here]

theorem storeLanes_error
    (lanes : Lanes)
    (outside : ¬memory.labels.Covers address.toNat width.bytes) :
    memory.storeLanes address width lanes =
      .stopped memory (memory.accessFault address width.bytes) := by
  rw [storeLanes, locate_error outside]

theorem storeRange_ok
    (label : UInt8)
    (covers : memory.labels.Covers address.toNat length.toNat) :
    LeavesMap (memory.storeRange address length label)
      (memory.labels.fill address.toNat length.toNat label) := by
  by_cases empty : length = 0
  · subst empty
    refine ⟨memory, rfl, LabelMap.ext rfl rfl ?_⟩
    funext position
    show _ = if _ then _ else _
    rw [if_neg]
    simp only [UInt32.toNat_zero]
    omega
  · obtain ⟨offset, found, located, inside⟩ := locate_ok covers (toNat_pos empty)
    rw [storeRange, if_neg empty, found]
    refine (fillLabels_leaves memory offset _ label inside).leavesMap rfl rfl ?_ ?_
    · intro position below
      show (if _ then _ else _) = _
      rw [if_neg (by omega), labels_below _ below]
    · intro position
      show (if _ then _ else _) = _
      rw [labels_above]
      by_cases here : offset ≤ position ∧ position < offset + length.toNat
      · rw [if_pos (by omega), if_pos here]
      · rw [if_neg (by omega), if_neg here]

theorem storeRange_error
    (label : UInt8)
    (outside : ¬memory.labels.Covers address.toNat length.toNat) :
    memory.storeRange address length label =
      .stopped memory (memory.accessFault address length.toNat) := by
  have nonzero : ¬length = 0 := fun empty => outside (empty ▸ covers_zero _ _)
  rw [storeRange, if_neg nonzero, locate_error outside]

end Memory
end ShadowTaint
