import ShadowTaint.Proofs.Flow.Updates

/-!
# Slots of block transfers

The words of a block transfer lie side by side from a start that the mode sets. A listed
register has the word that its rank in the whole list says, the lowest register the first
one, whichever registers are left out. What is left out depends on the base register
alone, and never on addresses.
-/

namespace ShadowTaint

/-! ## Ranks -/

/-- In a list that ascends by a measure, as many members are below one of them as stand
before it. -/
theorem countP_lt_getElem
    {list : List Listed}
    {measure : Listed -> Nat}
    (ascending : list.Pairwise fun first second => measure first < measure second)
    {position : Nat}
    (inside : position < list.length) :
    list.countP (fun other => decide (measure other < measure list[position])) = position := by
  induction list generalizing position with
  | nil => cases inside
  | cons first rest inductionHypothesis =>
      obtain ⟨above, ascendingRest⟩ := List.pairwise_cons.1 ascending
      cases position with
      | zero =>
          rw [List.countP_eq_zero]
          intro other member
          obtain rfl | inRest := List.mem_cons.1 member
          · simp
          · simpa using Nat.le_of_lt (above other inRest)
      | succ position =>
          have inRest : position < rest.length := Nat.lt_of_succ_lt_succ inside
          rw [List.getElem_cons_succ, List.countP_cons, inductionHypothesis ascendingRest inRest,
            if_pos (by simpa using above _ (List.getElem_mem inRest))]

namespace RegList

/-- The number of listed registers below a register. -/
def rank (list : RegList) (reg : Reg) : Nat :=
  list.toList.countP fun other => decide (other.index < reg.index)

theorem pairwise_toList (list : RegList) :
    list.toList.Pairwise fun first second => first.index < second.index := by
  have ascending : Reg.all.Pairwise fun first second => first.index < second.index := by decide
  exact ascending.filter list.contains

/-- Registers are listed in the order of their ranks. -/
theorem rank_getElem
    (list : RegList)
    {position : Nat}
    (inside : position < list.toList.length) :
    list.rank list.toList[position] = position :=
  countP_lt_getElem list.pairwise_toList inside

/-- Below the lowest listed register there is none. -/
theorem rank_eq_zero
    {list : RegList}
    {reg : Reg}
    (lowest : ∀ other ∈ list.toList, reg.index ≤ other.index) :
    list.rank reg = 0 := by
  rw [rank, List.countP_eq_zero]
  intro other member
  simpa using lowest other member

end RegList

/-! ## Addresses -/

namespace BlockMode

/-- The address of the first word of a transfer of `count` words. -/
def start (mode : BlockMode) (base : UInt32) (count : Nat) : UInt32 :=
  match mode with
  | incrementAfter => base
  | incrementBefore => base + 4
  | decrementAfter => base - 4 * UInt32.ofNat count + 4
  | decrementBefore => base - 4 * UInt32.ofNat count

/-- The words of a transfer lie side by side from its start. -/
theorem slotAddress_eq
    (mode : BlockMode)
    (base : UInt32)
    {slot count : Nat}
    (inside : slot < count) :
    mode.slotAddress base slot count = mode.start base count + 4 * UInt32.ofNat slot := by
  rw [← UInt32.toNat_inj]
  have four : (4 : UInt32).toNat = 4 := rfl
  have bounded := base.toNat_lt
  cases mode <;>
    simp only [slotAddress, start, UInt32.toNat_sub, UInt32.toNat_add, UInt32.toNat_mul,
      UInt32.toNat_ofNat', four] <;>
    omega

end BlockMode

/-! ## Slots -/

/-- Two words have no byte in common, counting addresses around the end of the address
space. -/
def WordsDisjoint (first second : UInt32) : Prop :=
  ∀ one other : UInt32, one < 4 -> other < 4 -> first + one ≠ second + other

/-- Words at different places of a row that does not reach around the address space. -/
theorem wordsDisjoint_of_lt
    (start : UInt32)
    {slot other : Nat}
    (ordered : slot < other)
    (small : other ≤ 16) :
    WordsDisjoint (start + 4 * UInt32.ofNat slot) (start + 4 * UInt32.ofNat other) := by
  intro one two oneInside twoInside same
  have four : (4 : UInt32).toNat = 4 := rfl
  rw [UInt32.lt_iff_toNat_lt, four] at oneInside twoInside
  have sameNumber := congrArg UInt32.toNat same
  simp only [UInt32.toNat_add, UInt32.toNat_mul, UInt32.toNat_ofNat', four] at sameNumber
  omega

/-- The distance of a place of such a row from its start. -/
theorem toNat_sub_start
    (start : UInt32)
    {slot : Nat}
    (small : slot ≤ 16) :
    (start + 4 * UInt32.ofNat slot - start).toNat = 4 * slot := by
  have four : (4 : UInt32).toNat = 4 := rfl
  have bounded := start.toNat_lt
  simp only [UInt32.toNat_sub, UInt32.toNat_add, UInt32.toNat_mul, UInt32.toNat_ofNat', four]
  omega

namespace BlockTransfer

/-- The address of the lowest slot. -/
def start (block : BlockTransfer) (baseAddress : UInt32) : UInt32 :=
  block.mode.start baseAddress block.regs.toList.length

theorem length_slots (block : BlockTransfer) (baseAddress : UInt32) :
    (block.slots baseAddress).length = block.regs.toList.length :=
  List.length_mapIdx

theorem getElem_slots
    (block : BlockTransfer)
    (baseAddress : UInt32)
    {position : Nat}
    (inside : position < (block.slots baseAddress).length)
    (listed : position < block.regs.toList.length) :
    (block.slots baseAddress)[position] =
      (block.regs.toList[position], block.start baseAddress + 4 * UInt32.ofNat position) := by
  have counted := block.regs.length_toList
  simp only [slots, List.getElem_mapIdx]
  rw [BlockMode.slotAddress_eq _ _ (counted ▸ listed), start, counted]

/-- Every listed register has the slot of its rank. -/
theorem address_of_mem_slots
    {block : BlockTransfer}
    {baseAddress : UInt32}
    {slot : Reg × UInt32}
    (member : slot ∈ block.slots baseAddress) :
    slot.2 = block.start baseAddress + 4 * UInt32.ofNat (block.regs.rank slot.1) := by
  obtain ⟨position, inside, rfl⟩ := List.getElem_of_mem member
  have listed := block.length_slots baseAddress ▸ inside
  rw [block.getElem_slots baseAddress inside listed, RegList.rank_getElem]

/-- Where a slot is not left out, it lies behind those of all lower registers. -/
theorem pairwise_transferred_row
    (block : BlockTransfer)
    (exclusion : Exclusion)
    (baseAddress : UInt32) :
    (block.transferred exclusion baseAddress).Pairwise fun low high =>
      low.1.index < high.1.index ∧
        (low.2 - block.start baseAddress).toNat < (high.2 - block.start baseAddress).toNat ∧
        WordsDisjoint low.2 high.2 := by
  refine List.Pairwise.sublist (block.transferred_sublist exclusion baseAddress) ?_
  rw [List.pairwise_iff_getElem]
  intro low high lowInside highInside ordered
  have lowListed := block.length_slots baseAddress ▸ lowInside
  have highListed := block.length_slots baseAddress ▸ highInside
  have small : block.regs.toList.length ≤ 16 := block.regs.length_toList ▸ block.regs.size_le
  rw [block.getElem_slots baseAddress lowInside lowListed,
    block.getElem_slots baseAddress highInside highListed]
  refine ⟨?registers, ?distances, wordsDisjoint_of_lt _ ordered (by omega)⟩
  case registers =>
    exact List.pairwise_iff_getElem.1 block.regs.pairwise_toList _ _ lowListed highListed ordered
  case distances =>
    rw [toNat_sub_start _ (by omega), toNat_sub_start _ (by omega)]
    omega

end BlockTransfer

/-! ## Registers that are left out -/

/-- A listed register is transferred beside a base register that is listed too. -/
def Exclusion.Keeps (exclusion : Exclusion) (base reg : Reg) : Prop :=
  match exclusion with
  | stopAtBase => reg.index < base.index
  | skipBase => reg ≠ base

/-- In an ascending list the members before a given one are those below it. -/
theorem mem_takeWhile_ne_iff
    {list : List Reg}
    {base reg : Reg}
    (ascending : list.Pairwise fun first second => first.index < second.index)
    (listed : base ∈ list) :
    reg ∈ list.takeWhile (fun other => other != base) ↔
      reg ∈ list ∧ reg.index < base.index := by
  induction list with
  | nil => cases listed
  | cons first rest inductionHypothesis =>
      obtain ⟨above, ascendingRest⟩ := List.pairwise_cons.1 ascending
      rw [List.takeWhile_cons]
      by_cases here : first = base
      · subst here
        have notBelow : ∀ other ∈ first :: rest, ¬other.index < first.index := by
          intro other member
          obtain rfl | inRest := List.mem_cons.1 member
          · exact Nat.lt_irrefl _
          · exact Nat.lt_asymm (above other inRest)
        simpa using notBelow reg
      · have listedRest : base ∈ rest := (List.mem_cons.1 listed).resolve_left (Ne.symm here)
        have below := above base listedRest
        rw [if_pos (bne_iff_ne.2 here), List.mem_cons, List.mem_cons,
          inductionHypothesis ascendingRest listedRest, or_and_right]
        refine or_congr_left ⟨?_, And.left⟩
        rintro rfl
        exact ⟨rfl, below⟩

/-- What stands before the first member to be left out is left in. -/
theorem takeWhile_prefix_filter (keeps : Listed -> Bool) (list : List Listed) :
    list.takeWhile keeps <+: list.filter keeps := by
  induction list with
  | nil => exact List.prefix_rfl
  | cons first rest inductionHypothesis =>
      rw [List.takeWhile_cons, List.filter_cons]
      split
      · exact (List.prefix_cons_inj first).2 inductionHypothesis
      · exact List.nil_prefix

namespace BlockTransfer

theorem mem_keep_iff
    {block : BlockTransfer}
    (listed : block.base ∈ block.regs)
    (exclusion : Exclusion)
    (baseAddress : UInt32)
    (reg : Reg) :
    reg ∈ (exclusion.keep block.base (block.slots baseAddress)).map Prod.fst ↔
      reg ∈ block.regs ∧ exclusion.Keeps block.base reg := by
  cases exclusion with
  | stopAtBase =>
      have kept : (Exclusion.stopAtBase.keep block.base (block.slots baseAddress)).map Prod.fst =
          block.regs.toList.takeWhile fun other => other != block.base := by
        rw [← block.slots_regs baseAddress, List.takeWhile_map]
        rfl
      rw [kept, mem_takeWhile_ne_iff block.regs.pairwise_toList (RegList.mem_toList.2 listed),
        RegList.mem_toList]
      rfl
  | skipBase =>
      have kept : (Exclusion.skipBase.keep block.base (block.slots baseAddress)).map Prod.fst =
          block.regs.toList.filter fun other => other != block.base := by
        rw [← block.slots_regs baseAddress, List.filter_map]
        rfl
      rw [kept, List.mem_filter, RegList.mem_toList, bne_iff_ne]
      rfl

theorem mem_transferred_iff
    (block : BlockTransfer)
    (exclusion : Exclusion)
    (baseAddress : UInt32)
    (reg : Reg) :
    reg ∈ (block.transferred exclusion baseAddress).map Prod.fst ↔
      reg ∈ block.regs ∧
        (block.writeback = true -> block.base ∈ block.regs ->
          exclusion.Keeps block.base reg) := by
  rw [transferred]
  split
  · rename_i excludes
    obtain ⟨writes, listed⟩ := (Bool.and_eq_true _ _).mp excludes
    rw [mem_keep_iff listed]
    exact and_congr_right fun _ => ⟨fun kept _ _ => kept, fun kept => kept writes listed⟩
  · rename_i keepsAll
    rw [slots_regs, RegList.mem_toList]
    refine ⟨fun member => ⟨member, fun writes listed => ?_⟩, And.left⟩
    exact absurd ((Bool.and_eq_true _ _).mpr ⟨writes, listed⟩) keepsAll

/-! ## Geometry -/

/-- Every listed register with the address of its slot, computed in its checked form. -/
def checkedSlots (block : BlockTransfer) (baseAddress : UInt32) :
    Except Fault (List (Reg × UInt32)) :=
  block.regs.toList.zipIdx.mapM fun (reg, slot) => do
    let address ← block.mode.checkedSlotAddress baseAddress slot block.regs.size
    return (reg, address)

/-- The transferred registers, from slots whose addresses are checked. -/
def checkedTransfer (block : BlockTransfer) (exclusion : Exclusion) (baseAddress : UInt32) :
    Except Fault (List (Reg × UInt32)) := do
  let slots ← block.checkedSlots baseAddress
  return if block.writeback && block.regs.contains block.base then
    exclusion.keep block.base slots
  else slots

theorem mapM_eq_ok
    {compute : Listed -> Except Fault Value}
    {value : Listed -> Value}
    {list : List Listed}
    (computes : ∀ member ∈ list, compute member = .ok (value member)) :
    list.mapM compute = .ok (list.map value) := by
  induction list with
  | nil => rfl
  | cons first rest inductionHypothesis =>
      rw [List.mapM_cons, computes first List.mem_cons_self,
        inductionHypothesis fun member inRest => computes member (List.mem_cons_of_mem _ inRest)]
      rfl

/-- No slot address of a transfer is out of range. -/
theorem checkedSlots_eq (block : BlockTransfer) (baseAddress : UInt32) :
    block.checkedSlots baseAddress = .ok (block.slots baseAddress) := by
  have small := block.regs.size_le
  have total : UInt32.size = 2 ^ 32 := rfl
  rw [slots, List.mapIdx_eq_zipIdx_map]
  apply mapM_eq_ok
  rintro ⟨reg, slot⟩ member
  have inside : slot < block.regs.toList.length := by
    simpa using (List.mem_zipIdx member).2.1
  rw [block.regs.length_toList] at inside
  dsimp only
  rw [block.mode.checkedSlotAddress_eq_ok _ _ _ inside (by omega)]
  rfl

theorem checkedTransfer_eq
    (block : BlockTransfer)
    (exclusion : Exclusion)
    (baseAddress : UInt32) :
    block.checkedTransfer exclusion baseAddress =
      .ok (block.transferred exclusion baseAddress) := by
  rw [checkedTransfer, checkedSlots_eq]
  rfl

/-- The slots of a transfer are computed without a fault. They are words side by side,
each where the rank of its register in the whole list says; the lowest register has the
lowest slot, and no two have a byte in common. Every listed register is transferred unless
the base register is written back and listed: then it is left out alone, or with all
registers above it. -/
theorem transferred_geometry
    (block : BlockTransfer)
    (exclusion : Exclusion)
    (baseAddress : UInt32) :
    let slots := block.transferred exclusion baseAddress
    let start := block.mode.start baseAddress block.regs.toList.length
    block.checkedTransfer exclusion baseAddress = .ok slots ∧
    (slots.Pairwise fun low high =>
      low.1.index < high.1.index ∧
        (low.2 - start).toNat < (high.2 - start).toNat ∧ WordsDisjoint low.2 high.2) ∧
    (∀ slot ∈ slots,
      slot.2 = start + 4 * UInt32.ofNat (block.regs.rank slot.1) ∧
        ((∀ other ∈ block.regs.toList, slot.1.index ≤ other.index) -> slot.2 = start)) ∧
    (∀ reg, reg ∈ slots.map Prod.fst ↔
      reg ∈ block.regs ∧
        (block.writeback = true -> block.base ∈ block.regs ->
          exclusion.Keeps block.base reg)) ∧
    block.transferred .stopAtBase baseAddress <+: block.transferred .skipBase baseAddress := by
  intro slots start
  refine ⟨block.checkedTransfer_eq exclusion baseAddress,
    block.pairwise_transferred_row exclusion baseAddress, ?addresses,
    block.mem_transferred_iff exclusion baseAddress, ?initial⟩
  case addresses =>
    intro slot member
    have address : slot.2 = start + 4 * UInt32.ofNat (block.regs.rank slot.1) :=
      address_of_mem_slots ((block.transferred_sublist exclusion baseAddress).mem member)
    refine ⟨address, fun lowest => ?_⟩
    rw [address, RegList.rank_eq_zero lowest]
    exact UInt32.add_zero start
  case initial =>
    rw [transferred, transferred]
    split
    · exact takeWhile_prefix_filter _ _
    · exact List.prefix_rfl

end BlockTransfer
end ShadowTaint
