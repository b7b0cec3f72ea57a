import ShadowTaint.Flow.Rules
import ShadowTaint.Proofs.Labels.Relation

/-!
# Taint rules keep labels related

A taint rule never looks at a label: it moves labels, unites them and clears them.
On related shadow states it therefore ends alike in all runs, keeps the states
related, and has the same outcome. The configured label plays no part in a rule. The
switches of the settings may differ between the runs, as far as the relation admits
that one run clears what another keeps.
-/

namespace ShadowTaint
namespace LabelRelation

variable {Run : Type} {relation : LabelRelation Run} {base size : Nat}

/-- Operations that keep states related may be continued. -/
theorem Keeps.andThen
    {runs : Run -> Reached Fault Shadow Value}
    {next : Run -> Shadow -> Value -> Reached Fault Shadow Other}
    (first : relation.Keeps base size runs)
    (continues : ∀ shadows value, relation.Shadows base size shadows ->
      relation.Keeps base size fun run => next run (shadows run) value) :
    relation.Keeps base size fun run => (runs run).andThen (next run) := by
  apply Alike.andThen first
  rintro shadows values ⟨related, value, rfl⟩
  exact continues shadows value related

/-! ## Settings -/

/-- Related labels stay related where only some of the runs keep them. -/
def Admits (relation : LabelRelation Run) (kept : Run -> Bool) : Prop :=
  ∀ labels, relation.holds labels ->
    relation.holds fun run => if kept run then labels run else 0

namespace Admits

/-- All the runs keep their labels, or none does. -/
theorem common (kept : Bool) : relation.Admits fun _ => kept := by
  intro labels related
  cases kept with
  | true => exact related
  | false => exact relation.zero

theorem taints
    {kept : Run -> Bool}
    {taints : Run -> Lanes}
    (admits : relation.Admits kept)
    (related : relation.Taints taints) :
    relation.Taints fun run => if kept run then taints run else Lanes.clean := by
  refine .ofLanes ?_ ?_ ?_ ?_ <;> simp only [apply_ite]
  · exact admits (fun run => (taints run).lane0) (related 0)
  · exact admits (fun run => (taints run).lane1) (related 1)
  · exact admits (fun run => (taints run).lane2) (related 2)
  · exact admits (fun run => (taints run).lane3) (related 3)

end Admits

/-- Settings that transfer the same registers, and whose switches differ only as the
relation admits. -/
structure Settings
    (relation : LabelRelation Run)
    (configs : Run -> AnalysisConfig) : Prop where
  exclusion : Unanimous fun run => (configs run).exclusion
  /-- Loads have the taint of the index register in some runs. -/
  index : relation.Admits fun run => (configs run).addressDependency
  /-- Status registers keep their taint in some runs. -/
  status : relation.Admits fun run => !(configs run).clearExclusiveStatus
  /-- New stack frames keep their labels in some runs. -/
  frame : relation.Admits fun run => !(configs run).stackAutoClear

theorem Settings.common (config : AnalysisConfig) : relation.Settings fun _ => config where
  exclusion := ⟨config.exclusion, rfl⟩
  index := .common _
  status := .common _
  frame := .common _

namespace Shadows

variable {shadows : Run -> Shadow} {configs : Run -> AnalysisConfig} {context : Context}

/-! ## Parts of rules -/

theorem addressTaint
    (related : relation.Shadows base size shadows)
    (settings : relation.Settings configs)
    (mem : MemRef) :
    relation.Taints fun run => mem.addressTaint (configs run) (shadows run).registers := by
  have index : relation.Taints fun run =>
      (mem.addressIndex?.map (shadows run).registers.get).getD Lanes.clean := by
    cases mem.addressIndex? with
    | none => exact Taints.clean
    | some index => exact related.files index
  exact settings.index.taints index

theorem writeback (related : relation.Shadows base size shadows) (mem : MemRef) :
    relation.Shadows base size fun run => mem.writeback (shadows run) := by
  unfold MemRef.writeback
  cases mem.mode.writesBack with
  | false => exact related
  | true =>
      cases mem.index with
      | none => exact related
      | some index => exact related.set (related.files.union _) mem.base

theorem clearStatus
    (related : relation.Shadows base size shadows)
    (settings : relation.Settings configs)
    (status : Option Reg) :
    relation.Shadows base size fun run => (shadows run).clearStatus (configs run) status := by
  cases status with
  | none => exact related
  | some reg =>
      have cleared (config : AnalysisConfig) (shadow : Shadow) :
          shadow.clearStatus config (some reg) =
            shadow.set reg
              (if !config.clearExclusiveStatus then shadow.registers.get reg
              else Lanes.clean) := by
        rw [Shadow.clearStatus]
        cases config.clearExclusiveStatus with
        | false => exact congrArg (Shadow.mk · shadow.memory) (shadow.registers.set_get reg).symm
        | true => rfl
      simp only [cleared]
      exact related.set (settings.status.taints (related.files reg)) reg

theorem loadSlots
    (related : relation.Shadows base size shadows)
    (slots : List (Reg × UInt32)) :
    relation.Keeps base size fun run => (shadows run).loadSlots slots := by
  induction slots generalizing shadows with
  | nil => exact related.keeps ()
  | cons slot rest inductionHypothesis =>
      apply Alike.andThen related.load
      rintro nexts taints ⟨nextsRelated, taint⟩
      exact inductionHypothesis (nextsRelated.set taint slot.1)

theorem storeSlots
    (related : relation.Shadows base size shadows)
    (slots : List (Reg × UInt32)) :
    relation.Keeps base size fun run => (shadows run).storeSlots slots := by
  induction slots generalizing shadows with
  | nil => exact related.keeps ()
  | cons slot rest inductionHypothesis =>
      apply Keeps.andThen (related.store (related.files slot.1))
      intro nexts _ nextsRelated
      exact inductionHypothesis nextsRelated

/-! ## Families -/

theorem constant
    (related : relation.Shadows base size shadows)
    (opcode : Opcode)
    (target : Reg) :
    relation.Shadows base size fun run =>
      Operation.propagateConstant opcode target (shadows run) := by
  unfold Operation.propagateConstant
  split
  · exact related.set ((related.files target).truncate .half) target
  · exact related.clean target

theorem halves
    (related : relation.Shadows base size shadows)
    (low high : Reg)
    (sources : List Reg) :
    relation.Shadows base size fun run =>
      Operation.propagateHalves low high sources (shadows run) := by
  have taint := related.files.union sources
  exact (related.set taint low).set taint high

theorem branch
    (related : relation.Shadows base size shadows)
    (link : Bool)
    (target : Operand) :
    relation.Shadows base size fun run =>
      Operation.propagateBranch link target (shadows run) := by
  have taint := related.files.union target.regs
  have linked := related.set (related.files Reg.pc) Reg.lr
  unfold Operation.propagateBranch
  cases target.isImmediate <;> cases link
  · exact related.set taint Reg.pc
  · exact linked.set taint Reg.pc
  · exact related
  · exact linked

theorem singleLoad
    (related : relation.Shadows base size shadows)
    (settings : relation.Settings configs)
    (width : Width)
    (target : Reg)
    (mem : MemRef) :
    relation.Keeps base size fun run =>
      Operation.propagateLoad (configs run) context width target mem (shadows run) := by
  apply Alike.andThen related.load
  rintro nexts loaded ⟨nextsRelated, taint⟩
  exact ((nextsRelated.writeback mem).set
    (taint.union (nextsRelated.addressTaint settings mem)) target).keeps ()

theorem pairLoad
    (related : relation.Shadows base size shadows)
    (settings : relation.Settings configs)
    (first second : Reg)
    (mem : MemRef) :
    relation.Keeps base size fun run =>
      Operation.propagateLoadDual (configs run) context first second mem (shadows run) := by
  have index := related.addressTaint settings mem
  apply Alike.andThen related.load
  rintro middles low ⟨middlesRelated, lowTaint⟩
  apply Alike.andThen middlesRelated.load
  rintro nexts high ⟨nextsRelated, highTaint⟩
  exact (((nextsRelated.writeback mem).set (lowTaint.union index) first).set
    (highTaint.union index) second).keeps ()

theorem singleStore
    (related : relation.Shadows base size shadows)
    (settings : relation.Settings configs)
    (width : Width)
    (source : Reg)
    (mem : MemRef)
    (status : Option Reg) :
    relation.Keeps base size fun run =>
      Operation.propagateStore (configs run) context width source mem status (shadows run) := by
  apply Keeps.andThen (related.store (related.files source))
  intro nexts _ nextsRelated
  exact ((nextsRelated.writeback mem).clearStatus settings status).keeps ()

theorem pairStore
    (related : relation.Shadows base size shadows)
    (settings : relation.Settings configs)
    (first second : Reg)
    (mem : MemRef)
    (status : Option Reg) :
    relation.Keeps base size fun run =>
      Operation.propagateStoreDual (configs run) context first second mem status (shadows run) := by
  have high := related.files second
  apply Keeps.andThen (related.store (related.files first))
  intro middles _ middlesRelated
  apply Keeps.andThen (middlesRelated.store high)
  intro nexts _ nextsRelated
  exact ((nextsRelated.writeback mem).clearStatus settings status).keeps ()

theorem arithmetic
    (related : relation.Shadows base size shadows)
    (target : Reg)
    (left right : Operand) :
    relation.Keeps base size fun run =>
      Operation.propagateArithmetic target left right (shadows run) := by
  unfold Operation.propagateArithmetic
  split
  · exact .stopped _ _
  · exact (related.set
      ((related.files.union left.regs).union (related.files.union right.regs)) target).keeps ()

/-- Every rule keeps labels related. -/
theorem operation
    (related : relation.Shadows base size shadows)
    (settings : relation.Settings configs)
    (opcode : Opcode)
    (context : Context)
    (operation : Operation) :
    relation.Keeps base size fun run =>
      operation.propagate (configs run) opcode context (shadows run) := by
  obtain ⟨exclusion, same⟩ := settings.exclusion
  have transfers (run : Run) : (configs run).exclusion = exclusion := congrFun same run
  cases operation with
  | move target source => exact (related.set (related.files.union source.regs) target).keeps ()
  | constant target => exact (related.constant opcode target).keeps ()
  | extract target source =>
      exact (related.set (related.files.union [source]) target).keeps ()
  | load width target mem => exact related.singleLoad settings width target mem
  | loadDual first second mem => exact related.pairLoad settings first second mem
  | store width source mem status => exact related.singleStore settings width source mem status
  | storeDual first second mem status =>
      exact related.pairStore settings first second mem status
  | arithmetic target left right => exact related.arithmetic target left right
  | multiplyAccumulate target left right accumulator =>
      exact (related.set (related.files.union _) target).keeps ()
  | multiplyLong low high left right => exact (related.halves low high _).keeps ()
  | multiplyAccumulateLong low high left right => exact (related.halves low high _).keeps ()
  | branch link target => exact (related.branch link target).keeps ()
  | loadMultiple block =>
      simp only [Operation.propagate, transfers]
      exact related.loadSlots _
  | storeMultiple block =>
      simp only [Operation.propagate, transfers]
      exact related.storeSlots _
  | inert | unsupported _ => exact related.keeps ()

/-! ## Instructions -/

theorem clearNewFrame
    (related : relation.Shadows base size shadows)
    (config : AnalysisConfig)
    (context : Context)
    (instr : Instruction) :
    relation.Keeps base size fun run =>
      instr.clearNewFrame config context (shadows run) := by
  unfold Instruction.clearNewFrame
  cases config.stackAutoClear with
  | false => exact related.keeps ()
  | true =>
      cases instr.allocatedFrame? with
      | none => exact related.keeps ()
      | some frame =>
          by_cases above : frame ≤ context.value Reg.sp
          · simp only [above, if_true]
            exact related.fill relation.zero
          · simp only [above, if_false]
            exact related.keeps ()

/-- The rule of an instruction keeps labels related and has one outcome. -/
theorem propagate
    (related : relation.Shadows base size shadows)
    (settings : relation.Settings configs)
    (context : Context)
    (instr : Instruction) :
    relation.Keeps base size fun run =>
      instr.propagate (configs run) context (shadows run) := by
  unfold Instruction.propagate
  cases instr.opcode.isSimd with
  | true => exact related.keeps _
  | false =>
      cases instr.zeroingTarget? with
      | some target => exact (related.clean target).keeps _
      | none =>
          apply Keeps.andThen (related.operation settings instr.opcode context _)
          intro ends _ endsRelated
          exact endsRelated.keeps _

/-- Executing an instruction under one setting keeps labels related. -/
theorem execute
    (related : relation.Shadows base size shadows)
    (config : AnalysisConfig)
    (context : Context)
    (instr : Instruction) :
    relation.Keeps base size fun run => instr.execute config context (shadows run) := by
  apply Keeps.andThen (related.clearNewFrame config context instr)
  intro nexts _ nextsRelated
  exact nextsRelated.propagate (.common config) context instr

end Shadows
end LabelRelation

namespace AnalysisConfig

/-- The settings with another label for taint that comes without one. -/
def withLabel (config : AnalysisConfig) (label : UInt8) : AnalysisConfig :=
  { config with defaultLabel := label }

end AnalysisConfig

end ShadowTaint
