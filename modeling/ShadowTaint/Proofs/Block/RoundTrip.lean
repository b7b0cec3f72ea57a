import ShadowTaint.Proofs.Block.Slots
import ShadowTaint.Proofs.Order.Stores

/-!
# Block transfers that restore what was stored

Registers that a block transfer has stored are restored by one that loads them from the
same words. Two transfers of the same registers have the same words if their rows start at
the same address: in one mode from one base address, or in a mode and the one that counts
from the other end of the row.
-/

namespace ShadowTaint

/-! ## Modes that share their words -/

namespace BlockMode

/-- The mode that counts the words of a row from its other end. -/
def complement : BlockMode -> BlockMode
  | incrementAfter => decrementBefore
  | incrementBefore => decrementAfter
  | decrementAfter => incrementBefore
  | decrementBefore => incrementAfter

/-- The base address from which the complement of a mode has the words of the mode. -/
def otherEnd (mode : BlockMode) (base : UInt32) (count : Nat) : UInt32 :=
  match mode with
  | incrementAfter | incrementBefore => base + 4 * UInt32.ofNat count
  | decrementAfter | decrementBefore => base - 4 * UInt32.ofNat count

/-- A mode at a base address has the words of another one at another: it is the same, or
counts from the other end. -/
def SharesWords
    (mode other : BlockMode)
    (base otherBase : UInt32)
    (count : Nat) : Prop :=
  other = mode ∧ otherBase = base ∨
    other = mode.complement ∧ otherBase = mode.otherEnd base count

instance (mode other : BlockMode) (base otherBase : UInt32) (count : Nat) :
    Decidable (mode.SharesWords other base otherBase count) :=
  inferInstanceAs (Decidable (_ ∨ _))

theorem start_complement (mode : BlockMode) (base : UInt32) (count : Nat) :
    mode.complement.start (mode.otherEnd base count) count = mode.start base count := by
  cases mode with
  | incrementAfter => exact UInt32.add_sub_cancel _ _
  | incrementBefore =>
      show base + 4 * UInt32.ofNat count - 4 * UInt32.ofNat count + 4 = base + 4
      rw [UInt32.add_sub_cancel]
  | decrementAfter => rfl
  | decrementBefore => rfl

theorem SharesWords.start_eq
    {mode other : BlockMode}
    {base otherBase : UInt32}
    {count : Nat}
    (shares : mode.SharesWords other base otherBase count) :
    other.start otherBase count = mode.start base count := by
  obtain ⟨rfl, rfl⟩ | ⟨rfl, rfl⟩ := shares
  · rfl
  · exact start_complement mode base count

end BlockMode

namespace BlockTransfer

/-- Rows of the same registers that start at the same address have the same slots. -/
theorem slots_congr
    {block other : BlockTransfer}
    {base otherBase : UInt32}
    (regs : other.regs = block.regs)
    (start : other.start otherBase = block.start base) :
    other.slots otherBase = block.slots base := by
  apply List.ext_getElem
  · rw [length_slots, length_slots, regs]
  · intro position inside otherInside
    rw [getElem_slots _ _ inside (length_slots .. ▸ inside),
      getElem_slots _ _ otherInside (length_slots .. ▸ otherInside), start]
    simp only [regs]

theorem transferred_congr
    {block : BlockTransfer}
    {mode : BlockMode}
    {base otherBase : UInt32}
    (shares : block.mode.SharesWords mode base otherBase block.regs.size)
    (exclusion : Exclusion) :
    { block with mode := mode }.transferred exclusion otherBase =
      block.transferred exclusion base := by
  have sameSlots : { block with mode := mode }.slots otherBase = block.slots base := by
    refine slots_congr ?regs ?start
    case regs => rfl
    case start =>
      rw [start, start, block.regs.length_toList]
      exact shares.start_eq
  rw [transferred, transferred, sameSlots]

end BlockTransfer

/-! ## Words that are read back -/

namespace Snapshot

variable {before : Snapshot} {slots : List (Reg × UInt32)}

/-- The store into a slot is the only one that covers its bytes. -/
theorem find?_slotStores
    {slot : Reg × UInt32}
    {address : Nat}
    (apart : slots.Pairwise fun slot other => WordsApart slot.2 other.2)
    (fit : ∀ slot ∈ slots, slot.2.toNat + 4 ≤ UInt32.size)
    (member : slot ∈ slots)
    (covered : (SlotStore.mk slot.2 .word (before.taint slot.1)).covers address = true) :
    ((before.slotStores slots).find? fun store => store.covers address) =
      some ⟨slot.2, .word, before.taint slot.1⟩ := by
  induction slots with
  | nil => cases member
  | cons first rest inductionHypothesis =>
      obtain ⟨apartFirst, apartRest⟩ := List.pairwise_cons.1 apart
      rw [slotStores, List.map_cons, List.find?_cons]
      obtain rfl | inRest := List.mem_cons.1 member
      · rw [covered]
      · cases here : (SlotStore.mk first.2 .word (before.taint first.1)).covers address with
        | false =>
            exact inductionHypothesis apartRest
              (fun slot inRest => fit slot (List.mem_cons_of_mem _ inRest)) inRest
        | true =>
            have uncovered : (SlotStore.mk slot.2 .word (before.taint slot.1)).covers address =
                false :=
              WordsApart.covers_eq_false here rfl rfl (fit first List.mem_cons_self)
                (apartFirst slot inRest)
            rw [uncovered] at covered
            cases covered

/-- Each slot holds the taint of its register. -/
theorem lanes_update_slotStores
    (apart : slots.Pairwise fun slot other => WordsApart slot.2 other.2)
    (fit : ∀ slot ∈ slots, slot.2.toNat + 4 ≤ UInt32.size) :
    ∀ slot ∈ slots,
      (before.update [] (before.slotStores slots)).loaded slot.2 .word =
        before.taint slot.1 := by
  intro slot member
  have label (lane : Nat) (inWord : lane < 4) :
      (before.update [] (before.slotStores slots)).memory.label (slot.2.toNat + lane) =
        (before.taint slot.1).toList.getD lane 0 := by
    have covered : (SlotStore.mk slot.2 .word (before.taint slot.1)).covers
        (slot.2.toNat + lane) = true := by
      simpa [SlotStore.covers, Width.bytes] using inWord
    simp only [update, find?_slotStores apart fit member covered, SlotStore.label,
      Nat.add_sub_cancel_left]
  have labels : (before.update [] (before.slotStores slots)).memory.slice slot.2.toNat 4 =
      (before.taint slot.1).toList :=
    List.map_congr_left fun lane inRange => label lane (List.mem_range.1 inRange)
  rw [loaded, LabelMap.lanes, Width.bytes, labels, Lanes.ofList_toList]

/-- What is loaded into a register from a row of slots. -/
theorem lookup_slotLoads
    {taint : Reg -> Lanes}
    (holds : ∀ slot ∈ slots, before.loaded slot.2 .word = taint slot.1)
    (reg : Reg) :
    (before.slotLoads slots).lookup reg =
      if reg ∈ slots.map Prod.fst then some (taint reg) else none := by
  induction slots with
  | nil => rfl
  | cons slot rest inductionHypothesis =>
      have rested := inductionHypothesis fun slot inRest =>
        holds slot (List.mem_cons_of_mem _ inRest)
      rw [slotLoads, List.map_cons, List.lookup_cons, ← slotLoads]
      by_cases here : reg = slot.1
      · subst here
        simp [holds slot List.mem_cons_self]
      · rw [beq_eq_false_iff_ne.2 here]
        simp only [List.map_cons, List.mem_cons, here, false_or]
        exact rested

end Snapshot

namespace Shadow

/-- Loading a row of slots restores, into the registers that were stored there, the taint
that they had before, and changes neither other registers nor the memory. -/
theorem loadSlots_of_storeSlots
    {slots : List (Reg × UInt32)}
    {before stored : Shadow}
    (later : Shadow)
    (apart : slots.Pairwise fun slot other => slot.1 ≠ other.1 ∧ WordsApart slot.2 other.2)
    (ran : before.storeSlots slots = .done stored ())
    (kept : later.memory = stored.memory) :
    ∃ after, later.loadSlots slots = .done after () ∧ after.memory = later.memory ∧
      ∀ reg, after.registers.get reg =
        if reg ∈ slots.map Prod.fst then before.registers.get reg
        else later.registers.get reg := by
  have wordsApart := apart.imp fun both => both.2
  have storing := before.storeSlots_meets rfl slots
  rw [ran] at storing
  have mapped : ∀ slot ∈ slots, before.memory.extent.Maps ⟨slot.2, 4⟩ := by
    intro slot member
    exact Extent.checkAll_eq_none_iff.1 storing.cause_eq.symm _ (List.mem_map_of_mem member)
  have fit : ∀ slot ∈ slots, slot.2.toNat + 4 ≤ UInt32.size := by
    intro slot member
    have covers : before.memory.labels.Covers slot.2.toNat 4 := mapped slot member
    exact toNat_add_le_of_covers (by decide) covers
  have sameExtent : later.memory.extent = before.memory.extent := by
    rw [kept]
    exact storing.extent_eq
  have ended : (later.loadSlots slots).result = .ok () := by
    rw [(later.loadSlots_meets sameExtent slots).result_eq, ← storing.cause_eq]
    rfl
  have loaded := Reached.eq_done ended
  refine ⟨_, loaded, ?memory, ?registers⟩
  case memory =>
    exact (later.loadSlots_stored slots _ _ loaded).eq (.refl _) (fun _ => rfl)
      (fun _ _ => Iff.rfl)
  case registers =>
    intro reg
    have labels : later.snapshot.memory =
        (before.snapshot.update [] (before.snapshot.slotStores slots)).memory := by
      rw [← storeSlots_done wordsApart ran]
      exact congrArg Memory.labels kept
    have holds : ∀ slot ∈ slots,
        later.snapshot.loaded slot.2 .word = before.registers.get slot.1 := by
      intro slot member
      rw [Snapshot.loaded, labels]
      exact Snapshot.lanes_update_slotStores wordsApart fit slot member
    have assigned := loadSlots_done (apart.imp fun both => both.1) loaded
    rw [← taint_snapshot, assigned]
    simp only [Snapshot.update, Snapshot.lookup_slotLoads holds]
    split <;> rfl

end Shadow

/-! ## Instructions -/

namespace Instruction

variable {instr : Instruction} {block : BlockTransfer}

/-- A block transfer allocates no frame and computes no zero. -/
theorem execute_of_transfers
    (transfers : instr.operation = .loadMultiple block ∨ instr.operation = .storeMultiple block)
    (integer : instr.opcode.isSimd = false)
    (config : AnalysisConfig)
    (context : Context)
    (shadow : Shadow) :
    instr.execute config context shadow =
      (instr.operation.propagate config instr.opcode context shadow).andThen fun after _ =>
        .done after .executed := by
  have noFrame : instr.allocatedFrame? = none := by
    obtain same | same := transfers <;> simp [allocatedFrame?, same]
  have noZero : instr.zeroingTarget? = none := by
    obtain same | same := transfers <;> simp [zeroingTarget?, same]
  have outcome : instr.operation.outcome = .executed := by
    obtain same | same := transfers <;> rw [same] <;> rfl
  have unframed : instr.clearNewFrame config context shadow = .done shadow () := by
    rw [clearNewFrame, noFrame]
    exact ite_self _
  rw [execute, unframed, Reached.andThen_done, propagate, integer, noZero, outcome,
    if_neg Bool.false_ne_true]

end Instruction

namespace Watched

variable {Notes : Type} {watched : Watched Notes} {instr : Instruction} {context : Context}
  {config : AnalysisConfig}

/-- A step that ran and was not skipped has executed its instruction. -/
theorem execute_of_step
    {observer : Observer Notes}
    {after : Watched Notes}
    {outcome : StepOutcome}
    (ran : watched.step observer config instr context = .done after outcome)
    (executed : outcome ≠ .skipped) :
    ∃ shadow,
      instr.execute config context ⟨watched.thread.registers, watched.memory⟩ =
        .done shadow outcome ∧ after.memory = shadow.memory := by
  cases executes : (watched.thread.arrive instr context).executes instr with
  | false =>
      rw [step_of_not_executes executes] at ran
      cases ran
      exact absurd rfl executed
  | true =>
      rw [step_of_executes executes, act] at ran
      obtain ⟨acted, value, actedRan, rest⟩ := Reached.andThen_eq_done_iff.1 ran
      obtain ⟨shadow, ruleRan, rfl⟩ := Reached.mapState_eq_done_iff.1 actedRan
      cases rest
      exact ⟨shadow, ruleRan, rfl⟩

/-- A step whose instruction executes leaves its memory and, up to the program counter,
its registers. -/
theorem step_of_execute
    {shadow : Shadow}
    {outcome : StepOutcome}
    (executes : (watched.thread.arrive instr context).executes instr = true)
    (ruled : instr.execute config context ⟨watched.thread.registers, watched.memory⟩ =
      .done shadow outcome)
    (observer : Observer Notes) :
    ∃ after, watched.step observer config instr context = .done after outcome ∧
      after.memory = shadow.memory ∧
      ∀ reg, reg ≠ Reg.pc -> after.thread.registers.get reg = shadow.registers.get reg := by
  rw [step_of_executes executes, act]
  dsimp only [Thread.registers_arrive]
  rw [ruled]
  refine ⟨_, rfl, rfl, fun reg different => ?_⟩
  have settled : (shadow.registers.set Reg.pc Lanes.clean).get reg = shadow.registers.get reg := by
    rw [RegisterFile.get_set, if_neg different]
  cases outcome <;> exact settled

/-- Registers that a block transfer has stored are restored by one that loads them from the
same words while the memory is as it was left, on whatever thread it executes. Nothing else
changes but the program counter. -/
theorem load_restores_store
    {LaterNotes : Type}
    (observer : Observer Notes)
    (laterObserver : Observer LaterNotes)
    (config laterConfig : AnalysisConfig)
    (block : BlockTransfer)
    (mode : BlockMode)
    (storing loading : Instruction)
    (context laterContext : Context)
    (before stored : Watched Notes)
    (later : Watched LaterNotes)
    (sameExclusion : laterConfig.exclusion = config.exclusion)
    (stores : storing.operation = .storeMultiple block)
    (storesIntegers : storing.opcode.isSimd = false)
    (ran : before.step observer config storing context = .done stored .executed)
    (loads : loading.operation = .loadMultiple { block with mode := mode })
    (loadsIntegers : loading.opcode.isSimd = false)
    (executes : (later.thread.arrive loading laterContext).executes loading = true)
    (kept : later.memory = stored.memory)
    (shares : block.mode.SharesWords mode (context.value block.base)
      (laterContext.value block.base) block.regs.size) :
    ∃ after,
      later.step laterObserver laterConfig loading laterContext = .done after .executed ∧
      (∀ reg, reg ≠ Reg.pc ->
        after.thread.registers.get reg =
          if reg ∈ (block.transferred config.exclusion (context.value block.base)).map Prod.fst
          then before.thread.registers.get reg
          else later.thread.registers.get reg) ∧
      after.memory = later.memory := by
  obtain ⟨shadow, storeRan, storedMemory⟩ := execute_of_step ran (by decide)
  rw [Instruction.execute_of_transfers (.inr stores) storesIntegers, stores] at storeRan
  obtain ⟨_, _, storedSlots, rest⟩ := Reached.andThen_eq_done_iff.1 storeRan
  cases rest
  obtain ⟨restored, loadedSlots, sameMemory, registers⟩ := Shadow.loadSlots_of_storeSlots
    ⟨later.thread.registers, later.memory⟩
    (block.pairwise_transferred config.exclusion (context.value block.base)) storedSlots
    (kept.trans storedMemory)
  have loaded : loading.execute laterConfig laterContext
      ⟨later.thread.registers, later.memory⟩ = .done restored .executed := by
    rw [Instruction.execute_of_transfers (.inl loads) loadsIntegers, loads, Operation.propagate,
      BlockTransfer.transferred_congr shares, sameExclusion, loadedSlots, Reached.andThen_done]
  obtain ⟨after, stepped, memory, kept⟩ := step_of_execute executes loaded laterObserver
  exact ⟨after, stepped, fun reg different => (kept reg different).trans (registers reg),
    memory.trans sameMemory⟩

/-- Two registers that were pushed below an odd stack pointer are popped by another thread. -/
theorem load_restores_store_popped :
    let block : BlockTransfer := ⟨.decrementBefore, Reg.sp, .ofList [⟨1⟩, ⟨2⟩], true⟩
    let push : Instruction := ⟨0, .stmdb, none, .storeMultiple block⟩
    let pop : Instruction :=
      ⟨4, .ldmia, none, .loadMultiple { block with mode := .incrementAfter }⟩
    let pushed := Context.zero.setValue Reg.sp 11
    let popped := Context.zero.setValue Reg.sp 3
    let thread := ((Thread.start 1).setRegister ⟨1⟩ (Lanes.splat 1)).setRegister ⟨2⟩
      (Lanes.ofByte 2)
    let memory : Memory := ⟨0, 16, #[none], by decide, by decide⟩
    ∃ stored after,
      (Watched.mk thread memory ()).step Observer.silent AnalysisConfig.standard push pushed =
        .done stored .executed ∧
      (Watched.mk (Thread.start 2) stored.memory ()).step Observer.silent
        AnalysisConfig.standard pop popped = .done after .executed ∧
      after.thread.registers.get ⟨1⟩ = Lanes.splat 1 ∧
      after.thread.registers.get ⟨2⟩ = Lanes.ofByte 2 ∧
      after.memory = stored.memory := by
  intro block push pop pushed popped thread memory
  let shadow : Shadow := ⟨thread.registers, memory⟩
  let slots := block.transferred .stopAtBase (pushed.value Reg.sp)
  have mapped : Extent.checkAll ⟨0, 16⟩ (slots.map fun slot => ⟨slot.2, 4⟩) = none := by
    decide
  have storing : (shadow.storeSlots slots).result = .ok () := by
    have extent : shadow.memory.extent = ⟨0, 16⟩ := rfl
    rw [(shadow.storeSlots_meets extent slots).result_eq, mapped]
    rfl
  have ruled : push.execute AnalysisConfig.standard pushed shadow =
      .done (shadow.storeSlots slots).state .executed := by
    rw [Instruction.execute_of_transfers (.inr rfl) rfl, Operation.propagate]
    exact congrArg (Reached.andThen · _) (Reached.eq_done storing)
  let before : Watched Unit := ⟨thread, memory, ()⟩
  have executes : (before.thread.arrive push pushed).executes push = true := rfl
  obtain ⟨stored, stepped, -⟩ := step_of_execute executes ruled Observer.silent
  obtain ⟨after, loaded, registers, kept⟩ := load_restores_store Observer.silent
    Observer.silent AnalysisConfig.standard AnalysisConfig.standard block .incrementAfter push pop
    pushed popped before stored (Watched.mk (Thread.start 2) stored.memory ()) rfl rfl rfl stepped
    rfl rfl rfl rfl (by decide)
  refine ⟨stored, after, stepped, loaded, ?_, ?_, kept⟩
  · rw [registers ⟨1⟩ (by decide), if_pos (by decide)]
    decide
  · rw [registers ⟨2⟩ (by decide), if_pos (by decide)]
    decide

end Watched
end ShadowTaint
