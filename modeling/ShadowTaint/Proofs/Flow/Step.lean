import ShadowTaint.Proofs.Flow.Execution

/-!
# Steps as simultaneous assignments

A step that executes its instruction first cleans the stack frame that the
instruction allocates, then applies the rule, and leaves a clean program counter.
Together this is `Instruction.assign` on the snapshot from before the step, whoever
observes it.
-/

namespace ShadowTaint
namespace Instruction

variable {config : AnalysisConfig} {context : Context} {instr : Instruction}
  {shadow after : Shadow} {outcome : StepOutcome}

/-- Only an arithmetic instruction computes zero from equal sources, and it stores
nothing. -/
theorem stores_of_zeroingTarget?
    {target : Reg}
    (zeroing : instr.zeroingTarget? = some target)
    (before : Snapshot) :
    instr.operation.stores config context before = [] := by
  unfold zeroingTarget? at zeroing
  split at zeroing
  · rename_i isArithmetic
    rw [isArithmetic]
    rfl
  · cases zeroing

/-- An instruction that has been propagated has made its assignments and stores. -/
theorem propagate_done
    (ran : instr.propagate config context shadow = .done after outcome) :
    after.snapshot = shadow.snapshot.update
      (instr.assignments config context shadow.snapshot)
      (instr.stores config context shadow.snapshot) := by
  rw [propagate] at ran
  rw [assignments, stores]
  cases simd : instr.opcode.isSimd with
  | true =>
      rw [simd] at ran
      cases ran
      rfl
  | false =>
      rw [simd, if_neg Bool.false_ne_true] at ran
      rw [if_neg Bool.false_ne_true, if_neg Bool.false_ne_true]
      cases zeroing : instr.zeroingTarget? with
      | some target =>
          rw [zeroing] at ran
          cases ran
          rw [stores_of_zeroingTarget? zeroing]
          exact Shadow.snapshot_set ..
      | none =>
          rw [zeroing] at ran
          obtain ⟨middle, value, propagated, rest⟩ := Reached.andThen_eq_done_iff.1 ran
          cases rest
          exact instr.operation.propagate_done propagated

/-- The frame that an instruction allocates has been cleaned. -/
theorem clearNewFrame_done
    (ran : instr.clearNewFrame config context shadow = .done after ()) :
    after.snapshot = instr.withNewFrame config context shadow.snapshot := by
  rw [clearNewFrame] at ran
  rw [withNewFrame]
  cases clears : config.stackAutoClear with
  | false =>
      rw [clears] at ran
      cases ran
      rfl
  | true =>
      rw [clears, if_pos rfl] at ran
      cases allocates : instr.allocatedFrame? with
      | none =>
          rw [allocates] at ran
          cases ran
          rfl
      | some size =>
          rw [allocates] at ran
          dsimp only at ran ⊢
          by_cases above : size ≤ context.value Reg.sp
          · rw [if_pos above] at ran ⊢
            rw [Shadow.fill_done ran, UInt32.toNat_sub_of_le _ _ above]
          · rw [if_neg above] at ran ⊢
            cases ran
            rfl

/-- An instruction that allocates a frame reads no memory, so it may as well read
the state from before its frame was cleaned. -/
theorem update_withNewFrame
    (config : AnalysisConfig)
    (context : Context)
    (instr : Instruction)
    (before : Snapshot) :
    let framed := instr.withNewFrame config context before
    instr.assignments config context framed = instr.assignments config context before ∧
      instr.stores config context framed = instr.stores config context before := by
  intro framed
  cases allocates : instr.allocatedFrame? with
  | none =>
      have same : framed = before := by
        simp only [framed, withNewFrame, allocates]
        cases config.stackAutoClear <;> rfl
      rw [same]
      exact ⟨rfl, rfl⟩
  | some size =>
      have sameTaint : framed.taint = before.taint := by
        simp only [framed, withNewFrame]
        split
        · split <;> rfl
        · rfl
      have sameUnion (regs : List Reg) : framed.union regs = before.union regs := by
        rw [Snapshot.union, sameTaint, Snapshot.union]
      unfold allocatedFrame? at allocates
      split at allocates
      · rename_i isArithmetic
        simp only [assignments, stores, isArithmetic, Operation.assignments,
          Operation.stores, sameUnion, and_self]
      · cases allocates

theorem execute_done
    (ran : instr.execute config context shadow = .done after outcome) :
    after.snapshot = (instr.withNewFrame config context shadow.snapshot).update
      (instr.assignments config context shadow.snapshot)
      (instr.stores config context shadow.snapshot) := by
  obtain ⟨middle, value, cleared, propagated⟩ := Reached.andThen_eq_done_iff.1 ran
  have framed := clearNewFrame_done cleared
  obtain ⟨sameAssignments, sameStores⟩ :=
    update_withNewFrame config context instr shadow.snapshot
  rw [propagate_done propagated, framed, sameAssignments, sameStores]

end Instruction

namespace Watched

variable {Notes : Type}

/-- The taint of the registers of the thread and the labels of the memory. -/
def snapshot (watched : Watched Notes) : Snapshot :=
  ⟨watched.thread.registers.get, watched.memory.labels⟩

end Watched
end ShadowTaint
