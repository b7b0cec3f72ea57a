import ShadowTaint.Proofs.Shadow.Refinement

/-!
# Histories of shadow memory

One operation on shadow memory does what it does on the plain map: where its range
is mapped it gives the same answer and ends with the changed map, and elsewhere it
is the same fault and keeps the memory, pages included. By induction the answers
of every history on fresh memory are those of a plain map that starts clean.
-/

namespace ShadowTaint
namespace MemoryOperation

open Memory

theorem storing_leavesMap
    {reached : Reached Fault Memory Unit}
    {map : LabelMap}
    (leaves : LeavesMap reached map) :
    ∃ after : Memory, storing reached = .done after .stored ∧ after.labels = map := by
  obtain ⟨after, rfl, same⟩ := leaves
  exact ⟨after, rfl, same⟩

/-- An operation on a mapped range does what it does on the plain map. -/
theorem perform_inside
    (operation : MemoryOperation)
    (memory : Memory)
    (inside : operation.Inside memory.labels) :
    ∃ after : Memory,
      operation.perform memory = .done after (operation.answer memory.labels) ∧
        after.labels = operation.after memory.labels := by
  cases operation with
  | get address => exact ⟨memory, congrArg (asking memory .label) (get_ok inside), rfl⟩
  | set address label => exact storing_leavesMap (store_ok label inside)
  | read address width => exact ⟨memory, congrArg (asking memory .lanes) (read_ok inside), rfl⟩
  | write address width lanes => exact storing_leavesMap (storeLanes_ok lanes inside)
  | fill address length label => exact storing_leavesMap (storeRange_ok label inside)
  | clean address length => exact storing_leavesMap (storeRange_ok 0 inside)
  | isTainted address length =>
      exact ⟨memory, congrArg (asking memory .tainted) (isTainted_ok inside), rfl⟩
  | slice address length =>
      exact ⟨memory, congrArg (asking memory .labels) (slice_ok inside), rfl⟩

/-- An operation on a range that is not mapped is a fault and keeps the memory. -/
theorem perform_outside
    (operation : MemoryOperation)
    (memory : Memory)
    (outside : ¬operation.Inside memory.labels) :
    operation.perform memory = .stopped memory (operation.fault memory.labels) := by
  cases operation with
  | get address => exact congrArg (asking memory .label) (get_error outside)
  | set address label => exact congrArg storing (store_error label outside)
  | read address width => exact congrArg (asking memory .lanes) (read_error outside)
  | write address width lanes => exact congrArg storing (storeLanes_error lanes outside)
  | fill address length label => exact congrArg storing (storeRange_error label outside)
  | clean address length => exact congrArg storing (storeRange_error 0 outside)
  | isTainted address length => exact congrArg (asking memory .tainted) (isTainted_error outside)
  | slice address length => exact congrArg (asking memory .labels) (slice_error outside)

/-- One operation on shadow memory and on the plain map it stands for. -/
theorem perform_refines (operation : MemoryOperation) (memory : Memory) :
    ((operation.perform memory).state.labels, (operation.perform memory).result) =
      operation.performPlain memory.labels := by
  rw [performPlain]
  by_cases inside : operation.Inside memory.labels
  · obtain ⟨after, result, same⟩ := operation.perform_inside memory inside
    rw [if_pos inside, result, ← same]
    rfl
  · rw [if_neg inside, operation.perform_outside memory inside]
    rfl

/-- A history on shadow memory and on the plain map it stands for. -/
theorem performAll_refines (operations : List MemoryOperation) (memory : Memory) :
    ((performAll memory operations).1.labels, (performAll memory operations).2) =
      performAllPlain memory.labels operations := by
  induction operations generalizing memory with
  | nil => rfl
  | cons operation rest inductionHypothesis =>
      simp only [performAll, performAllPlain]
      rw [← operation.perform_refines memory, ← inductionHypothesis]

/-- Operations keep the mapped range. -/
theorem range_performPlain (operation : MemoryOperation) (map : LabelMap) :
    (operation.performPlain map).1.base = map.base ∧
      (operation.performPlain map).1.size = map.size := by
  rw [performPlain]
  split
  · cases operation <;> exact ⟨rfl, rfl⟩
  · exact ⟨rfl, rfl⟩

theorem range_performAllPlain (operations : List MemoryOperation) (map : LabelMap) :
    (performAllPlain map operations).1.base = map.base ∧
      (performAllPlain map operations).1.size = map.size := by
  induction operations generalizing map with
  | nil => exact ⟨rfl, rfl⟩
  | cons operation rest inductionHypothesis =>
      obtain ⟨base, size⟩ := inductionHypothesis (operation.performPlain map).1
      obtain ⟨firstBase, firstSize⟩ := operation.range_performPlain map
      exact ⟨base.trans firstBase, size.trans firstSize⟩

end MemoryOperation

namespace Memory

theorem create_ok
    {base : UInt32}
    {size : UInt64}
    (fits : base.toNat + size.toNat ≤ UInt32.size) :
    ∃ memory, create base size = .ok memory ∧
      memory.labels = LabelMap.clean base.toNat size.toNat := by
  have absent (count number : Nat) :
      (Array.replicate count (none : Option Page))[number]?.join = none := by
    rw [Array.getElem?_replicate]
    split <;> rfl
  have created : ∃ memory, create base size = .ok memory ∧ memory.base = base ∧
      memory.size = size.toNat ∧
      memory.pages = Array.replicate (pageCount size.toNat) none := by
    rw [create, dif_pos fits]
    exact ⟨_, rfl, rfl, rfl, rfl⟩
  obtain ⟨memory, result, sameBase, sameSize, samePages⟩ := created
  refine ⟨memory, result, LabelMap.ext ?_ sameSize ?_⟩
  · rw [← sameBase]
    rfl
  · funext address
    simp only [labels, labelAt, pageOf, LabelMap.clean, samePages, absent, ite_self]

theorem create_error
    {base : UInt32}
    {size : UInt64}
    (exceeds : ¬base.toNat + size.toNat ≤ UInt32.size) :
    ∃ fault, create base size = .error fault := by
  rw [create, dif_neg exceeds]
  split
  · exact ⟨_, rfl⟩
  · exact ⟨_, rfl⟩

/-- Fresh memory is clean. -/
theorem labels_of_create
    {base : UInt32}
    {size : UInt64}
    {memory : Memory}
    (created : create base size = .ok memory) :
    memory.labels = LabelMap.clean base.toNat size.toNat := by
  by_cases fits : base.toNat + size.toNat ≤ UInt32.size
  · obtain ⟨fresh, result, clean⟩ := create_ok fits
    rw [created] at result
    cases result
    exact clean
  · obtain ⟨fault, failed⟩ := create_error fits
    rw [created] at failed
    cases failed

/-- Shadow memory can be created when its range lies in the address space. Over its
whole history it then answers like a plain map of the range that starts clean, and
an operation is a fault exactly when its range is not mapped; the fault is that of
the access, and it keeps every label and every page. -/
theorem create_refines_plain_map (base : UInt32) (size : UInt64) :
    ((∃ memory, create base size = .ok memory) ↔ base.toNat + size.toNat ≤ UInt32.size) ∧
      ∀ memory, create base size = .ok memory →
        ∀ operations : List MemoryOperation,
          let start := LabelMap.clean base.toNat size.toNat
          let reached := MemoryOperation.performAll memory operations
          let plain := MemoryOperation.performAllPlain start operations
          reached.2 = plain.2 ∧ reached.1.labels = plain.1 ∧
            ∀ operation : MemoryOperation,
              ((∃ fault, (operation.perform reached.1).result = .error fault) ↔
                ¬operation.Inside start) ∧
              ∀ fault, (operation.perform reached.1).result = .error fault →
                fault = operation.fault start ∧
                  (operation.perform reached.1).state = reached.1 := by
  have decided : (∃ memory, create base size = .ok memory) ↔
      base.toNat + size.toNat ≤ UInt32.size := by
    constructor
    · rintro ⟨memory, created⟩
      refine Decidable.byContradiction fun exceeds => ?_
      obtain ⟨fault, failed⟩ := create_error exceeds
      rw [failed] at created
      cases created
    · intro fits
      obtain ⟨memory, created, _⟩ := create_ok fits
      exact ⟨memory, created⟩
  refine ⟨decided, ?_⟩
  intro memory created operations start reached plain
  have history := MemoryOperation.performAll_refines operations memory
  rw [labels_of_create created] at history
  have sameLabels : reached.1.labels = plain.1 := congrArg Prod.fst history
  have sameResults : reached.2 = plain.2 := congrArg Prod.snd history
  refine ⟨sameResults, sameLabels, ?_⟩
  intro operation
  obtain ⟨sameBase, sameSize⟩ := MemoryOperation.range_performAllPlain operations start
  have sameInside : operation.Inside reached.1.labels ↔ operation.Inside start := by
    rw [sameLabels]
    simp only [MemoryOperation.Inside, LabelMap.Covers, plain, sameBase, sameSize]
  have sameFault : operation.fault reached.1.labels = operation.fault start := by
    rw [sameLabels]
    simp only [MemoryOperation.fault, plain, sameBase, sameSize]
  by_cases inside : operation.Inside start
  · obtain ⟨after, result, _⟩ := operation.perform_inside reached.1 (sameInside.2 inside)
    rw [result]
    refine ⟨iff_of_false ?_ (fun outside => outside inside), ?_⟩
    · rintro ⟨fault, failed⟩
      cases failed
    · intro fault failed
      cases failed
  · have result := operation.perform_outside reached.1 fun here => inside (sameInside.1 here)
    rw [result, sameFault]
    refine ⟨iff_of_true ⟨_, rfl⟩ inside, ?_⟩
    intro fault failed
    cases failed
    exact ⟨rfl, rfl⟩

end Memory
end ShadowTaint
