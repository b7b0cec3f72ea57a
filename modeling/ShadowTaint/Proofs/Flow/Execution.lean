import ShadowTaint.Analysis.Step
import ShadowTaint.Proofs.Flow.Updates

/-!
# Instructions execute as simultaneous assignments

The taint rules change the shadow state step by step. An operation that runs to its
end has updated the snapshot from before as its family says, with every right side
taken at once, so the order of the steps is right for all coinciding registers. What
a step of the analysis leaves behind follows from the rule of its instruction.
-/

namespace ShadowTaint
namespace Shadow

/-- The taint and the labels that a rule sees. -/
def snapshot (shadow : Shadow) : Snapshot := ⟨shadow.registers.get, shadow.memory.labels⟩

variable {shadow after : Shadow} {address length : UInt32} {width : Width} {taint : Lanes}

/-! ## Parts of rules -/

@[simp] theorem taint_snapshot (shadow : Shadow) (reg : Reg) :
    shadow.snapshot.taint reg = shadow.registers.get reg := rfl

theorem snapshot_set (shadow : Shadow) (reg : Reg) (taint : Lanes) :
    (shadow.set reg taint).snapshot = shadow.snapshot.update [(reg, taint)] [] := by
  apply Snapshot.ext
  · funext read
    simp only [snapshot, registers_set, RegisterFile.get_set, Snapshot.update,
      List.lookup_cons, List.lookup_nil]
    by_cases same : read = reg
    · simp [same]
    · simp [same, beq_eq_false_iff_ne.2 same]
  · rfl

theorem union_registers (shadow : Shadow) (regs : List Reg) :
    shadow.registers.union regs = shadow.snapshot.union regs := by
  induction regs with
  | nil => rfl
  | cons reg rest inductionHypothesis =>
      rw [RegisterFile.union_cons, inductionHypothesis]
      rfl

theorem load_done (ran : shadow.load address width = .done after taint) :
    after = shadow ∧ taint = shadow.snapshot.loaded address width := by
  rw [load] at ran
  by_cases covers : shadow.memory.labels.Covers address.toNat width.bytes
  · rw [Memory.read_ok covers] at ran
    cases ran
    exact ⟨rfl, rfl⟩
  · rw [Memory.read_error covers] at ran
    cases ran

/-- A mapped access does not wrap around. -/
theorem toNat_add_le_of_covers
    {memory : Memory}
    {first size : Nat}
    (nonempty : 0 < size)
    (covers : memory.labels.Covers first size) :
    first + size ≤ UInt32.size := by
  obtain empty | ⟨-, upper⟩ := covers
  · omega
  · exact Nat.le_trans upper memory.base_add_size_le

/-- A store of lanes gives each byte of the access the label of its lane. -/
theorem storeLanes_eq_update
    (before : Snapshot)
    (address : UInt32)
    (width : Width)
    (taint : Lanes) :
    before.memory.storeLanes address.toNat width taint =
      (before.update [] [⟨address, width, taint⟩]).memory := by
  have four := width.bytes_le_four
  refine LabelMap.ext rfl rfl ?_
  funext position
  simp only [LabelMap.storeLanes, LabelMap.store, Snapshot.update, List.find?_cons,
    List.find?_nil, SlotStore.covers, SlotStore.label, List.length_take]
  by_cases inside : address.toNat ≤ position ∧ position < address.toNat + width.bytes
  · have short : min width.bytes taint.toList.length = width.bytes := Nat.min_eq_left four
    rw [short, if_pos inside]
    simp only [inside, decide_true, Bool.and_self, List.getD_eq_getElem?_getD]
    rw [List.getElem?_take_of_lt (by omega)]
  · have short : min width.bytes taint.toList.length = width.bytes := Nat.min_eq_left four
    have outside : (decide (address.toNat ≤ position) &&
        decide (position < address.toNat + width.bytes)) = false := by
      simpa using inside
    rw [short, if_neg inside]
    simp only [outside]

theorem store_done (ran : shadow.store address width taint = .done after ()) :
    after.snapshot = shadow.snapshot.update [] [⟨address, width, taint⟩] ∧
      address.toNat + width.bytes ≤ UInt32.size := by
  obtain ⟨memory, stored, rfl⟩ := Reached.mapState_eq_done_iff.1 ran
  dsimp only at stored
  by_cases covers : shadow.memory.labels.Covers address.toNat width.bytes
  · obtain ⟨left, result, same⟩ := Memory.storeLanes_ok taint covers
    rw [result] at stored
    cases stored
    refine ⟨Snapshot.ext rfl ?_, toNat_add_le_of_covers width.bytes_pos covers⟩
    rw [← storeLanes_eq_update]
    exact same
  · rw [Memory.storeLanes_error taint covers] at stored
    cases stored

theorem fill_done
    {label : UInt8}
    (ran : shadow.fill address length label = .done after ()) :
    after.snapshot = { shadow.snapshot with
      memory := shadow.snapshot.memory.fill address.toNat length.toNat label } := by
  obtain ⟨memory, stored, rfl⟩ := Reached.mapState_eq_done_iff.1 ran
  dsimp only at stored
  by_cases covers : shadow.memory.labels.Covers address.toNat length.toNat
  · obtain ⟨left, result, same⟩ := Memory.storeRange_ok label covers
    rw [result] at stored
    cases stored
    exact Snapshot.ext rfl same
  · rw [Memory.storeRange_error label covers] at stored
    cases stored

theorem addressTaint_eq (config : AnalysisConfig) (mem : MemRef) (shadow : Shadow) :
    mem.addressTaint config shadow.registers = mem.indexTaint config shadow.snapshot := by
  rw [MemRef.addressTaint, MemRef.indexTaint, MemRef.addressIndex?]
  cases config.addressDependency <;> cases mem.mode.appliesOffset <;>
    cases mem.index <;> simp [Snapshot.union]

/-- The base register is updated as the memory operand says. -/
theorem snapshot_writeback (mem : MemRef) (shadow : Shadow) :
    (mem.writeback shadow).snapshot =
      shadow.snapshot.update (mem.baseAssignment shadow.snapshot) [] := by
  rw [MemRef.writeback, MemRef.baseAssignment]
  cases mem.mode.writesBack with
  | false => rfl
  | true =>
      cases mem.index with
      | none => rfl
      | some index =>
          show (shadow.set mem.base (shadow.registers.union [mem.base, index])).snapshot = _
          rw [snapshot_set, union_registers]

theorem snapshot_clearStatus
    (config : AnalysisConfig)
    (status : Option Reg)
    (shadow : Shadow) :
    (shadow.clearStatus config status).snapshot =
      shadow.snapshot.update (MemRef.statusAssignment config status) [] := by
  cases status with
  | none => rfl
  | some reg =>
      rw [clearStatus, MemRef.statusAssignment]
      cases config.clearExclusiveStatus with
      | false => rfl
      | true => exact snapshot_set ..

/-- Registers are loaded from their slots all at once. -/
theorem loadSlots_done
    {slots : List (Reg × UInt32)}
    (distinct : slots.Pairwise fun slot other => slot.1 ≠ other.1)
    (ran : shadow.loadSlots slots = .done after ()) :
    after.snapshot = shadow.snapshot.update (shadow.snapshot.slotLoads slots) [] := by
  induction slots generalizing shadow with
  | nil =>
      cases ran
      rfl
  | cons slot rest inductionHypothesis =>
      obtain ⟨fresh, distinctRest⟩ := List.pairwise_cons.1 distinct
      obtain ⟨middle, taint, loaded, restRan⟩ := Reached.andThen_eq_done_iff.1 ran
      obtain ⟨rfl, rfl⟩ := load_done loaded
      rw [inductionHypothesis distinctRest restRan, snapshot_set, Snapshot.update_update]
      apply Snapshot.update_append_comm _
      intro other member
      obtain ⟨slot, inRest, rfl⟩ := List.mem_map.1 member
      exact fresh slot inRest

/-- Registers are stored into their slots all at once. -/
theorem storeSlots_done
    {slots : List (Reg × UInt32)}
    (apart : slots.Pairwise fun slot other => WordsApart slot.2 other.2)
    (ran : shadow.storeSlots slots = .done after ()) :
    after.snapshot = shadow.snapshot.update [] (shadow.snapshot.slotStores slots) := by
  induction slots generalizing shadow with
  | nil =>
      cases ran
      rfl
  | cons slot rest inductionHypothesis =>
      obtain ⟨apartFirst, apartRest⟩ := List.pairwise_cons.1 apart
      obtain ⟨middle, value, stored, restRan⟩ := Reached.andThen_eq_done_iff.1 ran
      obtain ⟨changed, fits⟩ := store_done stored
      rw [inductionHypothesis apartRest restRan, changed]
      apply Snapshot.update_store _
      intro other member address covered
      obtain ⟨slot, inRest, rfl⟩ := List.mem_map.1 member
      exact WordsApart.covers_eq_false covered rfl rfl fits (apartFirst slot inRest)

end Shadow

/-! ## Families -/

namespace Operation

variable {config : AnalysisConfig} {context : Context} {shadow after : Shadow}

theorem load_done
    {width : Width}
    {target : Reg}
    {mem : MemRef}
    (ran : propagateLoad config context width target mem shadow = .done after ()) :
    after.snapshot = shadow.snapshot.update
      ((target, (shadow.snapshot.loaded (mem.address context) width).union
        (mem.indexTaint config shadow.snapshot)) :: mem.baseAssignment shadow.snapshot) [] := by
  obtain ⟨middle, taint, loaded, rest⟩ := Reached.andThen_eq_done_iff.1 ran
  obtain ⟨rfl, rfl⟩ := Shadow.load_done loaded
  cases rest
  rw [Shadow.snapshot_set, Shadow.snapshot_writeback, Snapshot.update_update,
    Shadow.addressTaint_eq]
  rfl

/-- The second register of a pair prevails over the first, and both over the base. -/
theorem loadDual_done
    {first second : Reg}
    {mem : MemRef}
    (ran : propagateLoadDual config context first second mem shadow = .done after ()) :
    after.snapshot = shadow.snapshot.update
      ((second, (shadow.snapshot.loaded (mem.address context + 4) .word).union
          (mem.indexTaint config shadow.snapshot)) ::
        (first, (shadow.snapshot.loaded (mem.address context) .word).union
          (mem.indexTaint config shadow.snapshot)) ::
        mem.baseAssignment shadow.snapshot) [] := by
  obtain ⟨middle, low, lowLoaded, lowRest⟩ := Reached.andThen_eq_done_iff.1 ran
  obtain ⟨rfl, rfl⟩ := Shadow.load_done lowLoaded
  obtain ⟨middle, high, highLoaded, rest⟩ := Reached.andThen_eq_done_iff.1 lowRest
  obtain ⟨rfl, rfl⟩ := Shadow.load_done highLoaded
  cases rest
  rw [Shadow.snapshot_set, Shadow.snapshot_set, Shadow.snapshot_writeback,
    Snapshot.update_update, Snapshot.update_update, Shadow.addressTaint_eq]
  rfl

/-- After a store the base is updated, and the status register prevails over it. -/
theorem snapshot_afterStore
    (mem : MemRef)
    (status : Option Reg)
    {before : Snapshot}
    {stores : List SlotStore}
    (stored : shadow.snapshot = before.update [] stores) :
    ((mem.writeback shadow).clearStatus config status).snapshot =
      before.update (MemRef.statusAssignment config status ++ mem.baseAssignment before)
        stores := by
  rw [Shadow.snapshot_clearStatus, Shadow.snapshot_writeback, stored,
    Snapshot.update_update, Snapshot.update_update, List.append_nil]
  rfl

theorem store_done
    {width : Width}
    {source : Reg}
    {mem : MemRef}
    {status : Option Reg}
    (ran : propagateStore config context width source mem status shadow = .done after ()) :
    after.snapshot = shadow.snapshot.update
      (MemRef.statusAssignment config status ++ mem.baseAssignment shadow.snapshot)
      [⟨mem.address context, width, shadow.snapshot.taint source⟩] := by
  obtain ⟨middle, value, stored, rest⟩ := Reached.andThen_eq_done_iff.1 ran
  cases rest
  exact snapshot_afterStore mem status (Shadow.store_done stored).1

/-- The words of a pair do not overlap, also when the second is at address zero. -/
theorem wordsApart_next (address : UInt32) : WordsApart address (address + 4) := by
  rw [WordsApart, UInt32.toNat_sub, UInt32.toNat_add]
  have total : UInt32.size = 2 ^ 32 := rfl
  have small := address.toNat_lt
  have four : (4 : UInt32).toNat = 4 := rfl
  omega

theorem storeDual_done
    {first second : Reg}
    {mem : MemRef}
    {status : Option Reg}
    (ran : propagateStoreDual config context first second mem status shadow =
      .done after ()) :
    after.snapshot = shadow.snapshot.update
      (MemRef.statusAssignment config status ++ mem.baseAssignment shadow.snapshot)
      [⟨mem.address context, .word, shadow.snapshot.taint first⟩,
        ⟨mem.address context + 4, .word, shadow.snapshot.taint second⟩] := by
  obtain ⟨middle, value, lowStored, lowRest⟩ := Reached.andThen_eq_done_iff.1 ran
  obtain ⟨lowChanged, fits⟩ := Shadow.store_done lowStored
  obtain ⟨middle, value, highStored, rest⟩ := Reached.andThen_eq_done_iff.1 lowRest
  obtain ⟨highChanged, -⟩ := Shadow.store_done highStored
  cases rest
  apply snapshot_afterStore mem status
  rw [highChanged, lowChanged]
  apply Snapshot.update_store _
  intro other member address covered
  cases List.mem_singleton.1 member
  exact WordsApart.covers_eq_false covered rfl rfl fits (wordsApart_next _)

theorem arithmetic_done
    {target : Reg}
    {left right : Operand}
    (ran : propagateArithmetic target left right shadow = .done after ()) :
    after.snapshot = shadow.snapshot.update
      [(target, shadow.snapshot.union (left.regs ++ right.regs))] [] := by
  rw [← Shadow.union_registers, RegisterFile.union_append]
  unfold propagateArithmetic at ran
  split at ran
  · cases ran
  · cases ran
    exact Shadow.snapshot_set ..

theorem snapshot_halves (low high : Reg) (sources : List Reg) (shadow : Shadow) :
    (propagateHalves low high sources shadow).snapshot = shadow.snapshot.update
      [(high, shadow.snapshot.union sources), (low, shadow.snapshot.union sources)] [] := by
  rw [← Shadow.union_registers]
  show ((shadow.set low _).set high _).snapshot = _
  rw [Shadow.snapshot_set, Shadow.snapshot_set, Snapshot.update_update]
  rfl

theorem snapshot_branch (link : Bool) (target : Operand) (shadow : Shadow) :
    (propagateBranch link target shadow).snapshot = shadow.snapshot.update
      ((if target.isImmediate then [] else [(Reg.pc, shadow.snapshot.union target.regs)]) ++
        if link then [(Reg.lr, shadow.snapshot.taint Reg.pc)] else []) [] := by
  rw [← Shadow.union_registers, propagateBranch]
  cases target.isImmediate <;> cases link
  · exact Shadow.snapshot_set ..
  · show ((shadow.set Reg.lr _).set Reg.pc _).snapshot = _
    rw [Shadow.snapshot_set, Shadow.snapshot_set, Snapshot.update_update]
    rfl
  · rfl
  · exact Shadow.snapshot_set ..

theorem snapshot_constant (opcode : Opcode) (target : Reg) (shadow : Shadow) :
    (propagateConstant opcode target shadow).snapshot = shadow.snapshot.update
      [(target,
        if opcode = .movt then (shadow.snapshot.taint target).truncate .half
        else Lanes.clean)] [] := by
  rw [propagateConstant]
  split
  · exact Shadow.snapshot_set ..
  · exact Shadow.snapshot_set ..

/-- An operation that runs to its end updates the state as its family says. -/
theorem propagate_done
    {opcode : Opcode}
    (operation : Operation)
    (ran : operation.propagate config opcode context shadow = .done after ()) :
    after.snapshot = shadow.snapshot.update
      (operation.assignments config opcode context shadow.snapshot)
      (operation.stores config context shadow.snapshot) := by
  cases operation with
  | load width target mem => exact load_done ran
  | loadDual first second mem => exact loadDual_done ran
  | store width source mem status => exact store_done ran
  | storeDual first second mem status => exact storeDual_done ran
  | arithmetic target left right => exact arithmetic_done ran
  | loadMultiple block =>
      exact Shadow.loadSlots_done
        ((block.pairwise_transferred _ _).imp fun both => both.1) ran
  | storeMultiple block =>
      exact Shadow.storeSlots_done
        ((block.pairwise_transferred _ _).imp fun both => both.2) ran
  | move target source =>
      cases ran
      rw [Shadow.snapshot_set, RegisterFile.operand, Shadow.union_registers]
      rfl
  | constant target =>
      cases ran
      exact snapshot_constant ..
  | extract target source =>
      cases ran
      rw [Shadow.snapshot_set, RegisterFile.union_cons, RegisterFile.union_nil,
        Lanes.union_clean]
      rfl
  | multiplyAccumulate target left right accumulator =>
      cases ran
      rw [Shadow.snapshot_set, Shadow.union_registers]
      rfl
  | multiplyLong low high left right =>
      cases ran
      exact snapshot_halves ..
  | multiplyAccumulateLong low high left right =>
      cases ran
      exact snapshot_halves ..
  | branch link target =>
      cases ran
      exact snapshot_branch ..
  | inert | unsupported kind =>
      cases ran
      rfl

end Operation
end ShadowTaint
