import ShadowTaint.Analysis.Observer
import ShadowTaint.Proofs.Labels.Rules

/-!
# Findings of related runs

An instruction checks the same sites in all runs: its address registers before its
rule, and the program counter after it. A run records the sites at which it sees
taint, with the taint that it sees. So related runs record findings at the same
sites, with related taint, where a run without a finding has seen clean lanes.
-/

namespace ShadowTaint

/-- A place where the taint of an address register is checked. -/
structure AccessSite where
  pc : UInt32
  opcode : Opcode
  reg : Reg
  isStore : Bool
  deriving DecidableEq

/-- A place where the taint of a new program counter is checked. -/
structure JumpSite where
  pc : UInt32
  opcode : Opcode
  deriving DecidableEq

/-- The finding about a site at which this taint is seen. -/
def AccessSite.finding (site : AccessSite) (taint : Lanes) : TaintedAccess :=
  ⟨site.pc, site.opcode, site.reg, taint, site.isStore⟩

/-- The finding about a site at which this taint is seen. -/
def JumpSite.finding (site : JumpSite) (taint : Lanes) : TaintedJump :=
  ⟨site.pc, site.opcode, taint⟩

/-- The findings at the sites that are checked, from the taint seen at each. -/
def recordedAt
    (finding : Site -> Lanes -> Finding)
    (sites : List Site)
    (taint : Site -> Lanes) : List Finding :=
  sites.filterMap fun site =>
    if (taint site).isTainted then some (finding site (taint site)) else none

namespace Instruction

/-- The sites that an instruction checks before its rule. -/
def accessSites (instr : Instruction) : List AccessSite :=
  match instr.operation.addressRegs? with
  | some (regs, isStore) => regs.map fun reg => ⟨instr.pc, instr.opcode, reg, isStore⟩
  | none => []

/-- The sites that an instruction checks after its rule. -/
def jumpSites (instr : Instruction) : List JumpSite :=
  if instr.operation.writesPc then [⟨instr.pc, instr.opcode⟩] else []

theorem accesses_eq_recordedAt (instr : Instruction) (registers : RegisterFile) :
    TaintedAccess.ofInstruction instr registers =
      recordedAt AccessSite.finding instr.accessSites fun site => registers.get site.reg := by
  rw [TaintedAccess.ofInstruction, accessSites]
  cases instr.operation.addressRegs? with
  | none => rfl
  | some checked =>
      show checked.1.filterMap _ = recordedAt _ (checked.1.map _) _
      rw [recordedAt, List.filterMap_map]
      rfl

theorem jump_eq_recordedAt (instr : Instruction) (registers : RegisterFile) :
    (TaintedJump.ofInstruction? instr registers).toList =
      recordedAt JumpSite.finding instr.jumpSites fun _ => registers.get Reg.pc := by
  rw [TaintedJump.ofInstruction?, jumpSites]
  cases instr.operation.writesPc with
  | false => rfl
  | true =>
      rw [recordedAt, if_pos rfl, List.filterMap_cons, List.filterMap_nil]
      cases (registers.get Reg.pc).isTainted <;> rfl

end Instruction

namespace LabelRelation

variable {Run : Type} {relation : LabelRelation Run}

/-- The runs add findings at the same sites, with related taint. -/
def Extends
    (relation : LabelRelation Run)
    (finding : Site -> Lanes -> Finding)
    (befores afters : Run -> Array Finding) : Prop :=
  ∃ (sites : List Site) (taints : Run -> Site -> Lanes),
    (∀ site, relation.Taints fun run => taints run site) ∧
      ∀ run, afters run = befores run ++ recordedAt finding sites (taints run)

/-- Nothing is added. -/
theorem Extends.refl
    (finding : Site -> Lanes -> Finding)
    (befores : Run -> Array Finding) :
    relation.Extends finding befores befores :=
  ⟨[], fun _ _ => Lanes.clean, fun _ => Taints.clean, fun _ => Array.appendList_nil.symm⟩

/-- The runs add jumps and accesses at the same sites, with related taint. -/
structure Recorded
    (relation : LabelRelation Run)
    (befores afters : Run -> Findings) : Prop where
  accesses : relation.Extends AccessSite.finding
    (fun run => (befores run).accesses) fun run => (afters run).accesses
  jumps : relation.Extends JumpSite.finding
    (fun run => (befores run).jumps) fun run => (afters run).jumps

/-- Nothing is recorded where jumps and accesses stay as they are. -/
theorem Recorded.ofEq
    {befores afters : Run -> Findings}
    (sameAccesses : ∀ run, (afters run).accesses = (befores run).accesses)
    (sameJumps : ∀ run, (afters run).jumps = (befores run).jumps) :
    relation.Recorded befores afters where
  accesses := by
    rw [funext sameAccesses]
    exact Extends.refl _ _
  jumps := by
    rw [funext sameJumps]
    exact Extends.refl _ _

/-- What the sinks note about one instruction in related runs. -/
theorem Recorded.sinks
    {before after : Run -> RegisterFile}
    (beforeRelated : relation.Files before)
    (afterRelated : relation.Files after)
    (instr : Instruction)
    (findings : Run -> Findings) :
    relation.Recorded findings fun run =>
      Observer.sinks.after instr (after run)
        (Observer.sinks.before instr (before run) (findings run)) where
  accesses := by
    refine ⟨instr.accessSites, fun run site => (before run).get site.reg,
      fun site => beforeRelated site.reg, ?_⟩
    intro run
    rw [← instr.accesses_eq_recordedAt]
    rfl
  jumps := by
    refine ⟨instr.jumpSites, fun run _ => (after run).get Reg.pc,
      fun _ => afterRelated Reg.pc, ?_⟩
    intro run
    rw [← instr.jump_eq_recordedAt]
    rfl

end LabelRelation
end ShadowTaint
