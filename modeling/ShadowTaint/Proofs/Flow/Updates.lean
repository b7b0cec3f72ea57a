import ShadowTaint.Proofs.Flow.Assignment

/-!
# Updates one after the other

Two updates in sequence are one update: the assignments of the later one prevail,
and stores that do not overlap may be made in any order. The slots of a block
transfer belong to different registers and do not overlap, also where the addresses
wrap around the end of the address space.
-/

namespace ShadowTaint
namespace Snapshot

/-- Later assignments prevail. -/
theorem update_update
    (before : Snapshot)
    (first second : List (Reg × Lanes))
    (stores : List SlotStore) :
    (before.update first stores).update second [] = before.update (second ++ first) stores := by
  apply Snapshot.ext
  · funext reg
    simp only [update, List.lookup_append, Option.getD_or]
  · rfl

/-- An assignment to another register may be made before or after. -/
theorem update_append_comm
    (before : Snapshot)
    {reg : Reg}
    {taint : Lanes}
    {others : List (Reg × Lanes)}
    (fresh : ∀ other ∈ others, reg ≠ other.1) :
    before.update (others ++ [(reg, taint)]) [] = before.update ((reg, taint) :: others) [] := by
  apply Snapshot.ext
  · funext read
    simp only [update, List.lookup_append, List.lookup_cons, List.lookup_nil]
    cases found : read == reg with
    | true =>
        have same : read = reg := by simpa using found
        have absent : others.lookup read = none := by
          rw [List.lookup_eq_none_iff]
          intro other member
          simpa [same] using fresh other member
        simp [absent]
    | false => simp
  · rfl

/-- A store that overlaps none of the others may be made first. -/
theorem update_store
    (before : Snapshot)
    {store : SlotStore}
    {stores : List SlotStore}
    (apart : ∀ other ∈ stores, ∀ address, store.covers address = true ->
      other.covers address = false) :
    (before.update [] [store]).update [] stores = before.update [] (store :: stores) := by
  apply Snapshot.ext
  · rfl
  · refine LabelMap.ext rfl rfl ?_
    funext address
    simp only [update, List.find?_cons, List.find?_nil]
    cases here : store.covers address with
    | true =>
        have none : (stores.find? fun other => other.covers address) = none := by
          rw [List.find?_eq_none]
          intro other member
          simp [apart other member address here]
        simp [none]
    | false => rfl

end Snapshot

/-! ## Slots -/

/-- Two words do not overlap, counting around the end of the address space. -/
def WordsApart (first second : UInt32) : Prop :=
  4 ≤ (second - first).toNat ∧ (second - first).toNat ≤ UInt32.size - 4

/-- Words that are apart cover no common address if the first does not wrap around. -/
theorem WordsApart.covers_eq_false
    {first second : SlotStore}
    {address : Nat}
    (covered : first.covers address = true)
    (firstWord : first.width = .word)
    (secondWord : second.width = .word)
    (firstFits : first.first.toNat + first.width.bytes ≤ UInt32.size)
    (apart : WordsApart first.first second.first) :
    second.covers address = false := by
  have total : UInt32.size = 2 ^ 32 := rfl
  obtain ⟨lower, upper⟩ := apart
  rw [UInt32.toNat_sub] at lower upper
  rw [firstWord, Width.bytes] at firstFits
  simp only [SlotStore.covers, firstWord, Width.bytes, Bool.and_eq_true,
    decide_eq_true_eq] at covered
  simp only [SlotStore.covers, secondWord, Width.bytes, Bool.and_eq_false_iff,
    decide_eq_false_iff_not]
  omega

namespace RegList

theorem size_le (list : RegList) : list.size ≤ 16 := by
  simpa [size] using List.countP_le_length (p := list.bits.getLsbD) (l := List.range 16)

/-- As many registers are listed as there are bits set. -/
theorem length_toList (list : RegList) : list.toList.length = list.size := by
  have numbers : (List.range 16) = Reg.all.map Reg.index := by decide
  rw [toList, size, numbers, List.countP_map, List.countP_eq_length_filter]
  rfl

theorem nodup_toList (list : RegList) : list.toList.Nodup := by
  have all : Reg.all.Nodup := by decide
  exact all.filter list.contains

end RegList

namespace BlockTransfer

theorem slotAddress_sub
    (mode : BlockMode)
    (base : UInt32)
    {slot other count : Nat}
    (ordered : slot < other)
    (inside : other < count)
    (small : count ≤ 16) :
    (mode.slotAddress base other count - mode.slotAddress base slot count).toNat =
      4 * (other - slot) := by
  cases mode <;>
    simp only [BlockMode.slotAddress, UInt32.toNat_sub, UInt32.toNat_add,
      UInt32.toNat_ofNat'] <;>
    omega

/-- Different slots belong to different registers and do not overlap. -/
theorem pairwise_slots (block : BlockTransfer) (baseAddress : UInt32) :
    (block.slots baseAddress).Pairwise fun slot other =>
      slot.1 ≠ other.1 ∧ WordsApart slot.2 other.2 := by
  rw [List.pairwise_iff_getElem]
  intro slot other slotInside otherInside ordered
  simp only [slots, List.length_mapIdx] at slotInside otherInside
  have inside := otherInside
  rw [block.regs.length_toList] at inside
  simp only [slots, List.getElem_mapIdx]
  constructor
  · exact List.pairwise_iff_getElem.1 block.regs.nodup_toList _ _ slotInside otherInside ordered
  · have total : UInt32.size = 2 ^ 32 := rfl
    have small := block.regs.size_le
    rw [WordsApart, slotAddress_sub block.mode baseAddress ordered inside small]
    omega

/-- To leave registers out moves no slot. -/
theorem transferred_sublist
    (block : BlockTransfer)
    (exclusion : Exclusion)
    (baseAddress : UInt32) :
    (block.transferred exclusion baseAddress).Sublist (block.slots baseAddress) := by
  rw [transferred]
  split
  · cases exclusion with
    | stopAtBase => exact List.takeWhile_sublist _
    | skipBase => exact List.filter_sublist
  · exact .refl _

theorem pairwise_transferred
    (block : BlockTransfer)
    (exclusion : Exclusion)
    (baseAddress : UInt32) :
    (block.transferred exclusion baseAddress).Pairwise fun slot other =>
      slot.1 ≠ other.1 ∧ WordsApart slot.2 other.2 :=
  (block.pairwise_slots baseAddress).sublist (block.transferred_sublist exclusion baseAddress)

end BlockTransfer
end ShadowTaint
