import Mathlib.Data.List.Forall2
import ShadowTaint.Encoding.Report
import ShadowTaint.Proofs.Labels.Relabelling
import ShadowTaint.Proofs.Order.Effects
import ShadowTaint.Proofs.Trace.Balances

/-!
# Settings that retain more taint

Three switches of the settings decide what becomes clean: new stack frames, the status
registers of exclusive stores, and loaded values as far as their index register goes. Two
replays of one trace whose switches differ drift apart at the first clear that only one of
them makes, but every rule is monotone. So the replay that retains more has, after every
event, at least the taint of the other, and at least its findings. A frame that only one of
them cleans may stop that one, so both are compared as far as neither is stopped.
-/

namespace ShadowTaint

/-! ## Frames that some runs clean -/

namespace Instruction

/-- The address lies in the stack frame that an instruction allocates. -/
def frames (context : Context) (instr : Instruction) (address : Nat) : Bool :=
  match instr.allocatedFrame? with
  | some size =>
      let stack := context.value Reg.sp
      size ≤ stack && (stack.toNat - size.toNat ≤ address && address < stack.toNat)
  | none => false

/-- If frames are cleaned, nothing is left in a new one; nothing else changes. -/
theorem withNewFrame_eq
    (config : AnalysisConfig)
    (context : Context)
    (instr : Instruction)
    (before : Snapshot) :
    instr.withNewFrame config context before =
      { before with memory := { before.memory with
          label := fun address =>
            if config.stackAutoClear && instr.frames context address then 0
            else before.memory.label address } } := by
  unfold withNewFrame frames
  cases config.stackAutoClear with
  | false => rfl
  | true =>
      cases instr.allocatedFrame? with
      | none => rfl
      | some size =>
          dsimp only
          by_cases above : size ≤ context.value Reg.sp
          · have fits : size.toNat ≤ (context.value Reg.sp).toNat := UInt32.le_iff_toNat_le.1 above
            rw [if_pos above]
            simp only [LabelMap.fill, above, decide_true, Bool.true_and, Bool.and_eq_true,
              decide_eq_true_eq, Nat.sub_add_cancel fits]
          · rw [if_neg above]
            simp [above]

end Instruction

namespace LabelRelation

variable {Run : Type} {relation : LabelRelation Run} {base size : Nat}

/-- Shadow states that look like related ones are related. -/
theorem Shadows.ofSnapshots
    {shadows : Run -> Shadow}
    {snapshots : Run -> Snapshot}
    (same : ∀ run, (shadows run).snapshot = snapshots run)
    (taint : ∀ reg, relation.Taints fun run => (snapshots run).taint reg)
    (maps : relation.Maps base size fun run => (snapshots run).memory) :
    relation.Shadows base size shadows := by
  obtain rfl : (fun run => (shadows run).snapshot) = snapshots := funext same
  exact ⟨taint, maps⟩

/-- Runs that all come through the cleaning of a new frame, whether they clean it or not,
are related after it. -/
theorem Shadows.clearNewFrame_of_ended
    {shadows framed : Run -> Shadow}
    {configs : Run -> AnalysisConfig}
    {context : Context}
    {instr : Instruction}
    (related : relation.Shadows base size shadows)
    (settings : relation.Settings configs)
    (ended : ∀ run,
      instr.clearNewFrame (configs run) context (shadows run) = .done (framed run) ()) :
    relation.Shadows base size framed := by
  refine .ofSnapshots (fun run => (Instruction.clearNewFrame_done (ended run)).trans
    (Instruction.withNewFrame_eq ..)) related.files ⟨?base, ?size, ?label⟩
  case base => exact related.memories.base_eq
  case size => exact related.memories.size_eq
  case label =>
    intro address
    have before := related.memories.label address
    show relation.holds fun run =>
      if (configs run).stackAutoClear && instr.frames context address then 0
      else (shadows run).memory.labels.label address
    cases instr.frames context address with
    | false => simpa using before
    | true =>
        have cleared := settings.frame _ before
        simpa only [Bool.and_true, Bool.not_eq_eq_eq_not, Bool.not_true, ite_not,
          ← Bool.not_eq_true] using cleared

/-- Instructions that all run to their end have one outcome and keep labels related, also
under different settings. -/
theorem Shadows.execute_of_ended
    {shadows : Run -> Shadow}
    {configs : Run -> AnalysisConfig}
    {context : Context}
    {instr : Instruction}
    (related : relation.Shadows base size shadows)
    (settings : relation.Settings configs)
    (ended : ∀ run, ∃ outcome,
      (instr.execute (configs run) context (shadows run)).result = .ok outcome) :
    relation.Keeps base size fun run => instr.execute (configs run) context (shadows run) := by
  have cleared (run : Run) : ∃ framed,
      instr.clearNewFrame (configs run) context (shadows run) = .done framed () := by
    obtain ⟨outcome, ran⟩ := ended run
    obtain ⟨framed, _, clears, -⟩ := Reached.andThen_eq_done_iff.1 (Reached.eq_done ran)
    exact ⟨framed, clears⟩
  obtain ⟨framed, clears⟩ := Classical.skolem.1 cleared
  have framedRelated := related.clearNewFrame_of_ended settings clears
  refine .congr (fun run => ?_) (framedRelated.propagate settings context instr)
  rw [Instruction.execute, clears run, Reached.andThen_done]

/-! ## Replays under different settings -/

/-- Analyses that introduce the same labels, under settings that the relation admits. -/
structure Variants
    (relation : LabelRelation Run)
    (analyses : Run -> Analysis) : Prop where
  settings : relation.Settings fun run => (analyses run).config
  default : Unanimous fun run => (analyses run).config.defaultLabel
  calls : Unanimous fun run => (analyses run).sourceCalls
  source : Unanimous fun run => (analyses run).sourceLabel
  /-- A label that all runs introduce is related. -/
  constant : ∀ label, relation.holds fun _ => label

end LabelRelation

/-- The switches make no difference to events that are no steps. -/
theorem Analysis.apply_of_not_step
    {event : Event}
    (other : event.isStep = false)
    (analysis : Analysis)
    (replay : Replay) :
    analysis.apply replay event =
      (Analysis.mk (AnalysisConfig.standard.withLabel analysis.config.defaultLabel)
        analysis.sourceCalls analysis.sourceLabel).apply replay event := by
  cases event with
  | step => cases other
  | callEntry | callReturn | taint | untaint | threadExit => rfl

/-- One more event of a trace is applied to what its beginning reached. -/
theorem Analysis.applyAll_take_next
    {analysis : Analysis}
    {replay : Replay}
    {events : List Event}
    {event : Event}
    {count : Nat}
    (next : events[count]? = some event)
    (ended : (analysis.applyAll replay (events.take (count + 1))).result = .ok ()) :
    (analysis.applyAll replay (events.take count)).result = .ok () ∧
      analysis.applyAll replay (events.take (count + 1)) =
        analysis.apply (analysis.applyAll replay (events.take count)).state event := by
  rw [List.take_add_one, next, Option.toList_some, applyAll_concat] at ended ⊢
  obtain ⟨past, _, pastRan, -⟩ := Reached.andThen_eq_done_iff.1 (Reached.eq_done ended)
  rw [pastRan]
  exact ⟨rfl, rfl⟩

namespace LabelRelation

variable {Run : Type} {relation : LabelRelation Run} {base size : Nat}
  {replays : Run -> Replay} {analyses : Run -> Analysis}

namespace Replays

/-- A step that runs to its end in all runs has one outcome. -/
theorem step_of_ended
    {id : UInt32}
    {instr : Instruction}
    {context : Context}
    (related : relation.Replays base size replays)
    (variants : relation.Variants analyses)
    (ended : ∀ run, ∃ outcome,
      ((analyses run).step instr context ((replays run).view id)).result = .ok outcome) :
    relation.Occasion base size Unanimous (fun run => (replays run).view id)
      fun run => (analyses run).step instr context ((replays run).view id) := by
  have focus := related.view id
  refine focus.step_of_keeps fun executes => ?_
  refine focus.shadows.execute_of_ended variants.settings fun run => ?_
  obtain ⟨outcome, stepped⟩ := ended run
  refine ⟨outcome, ?_⟩
  rw [← stepped]
  exact (Watched.result_step_of_executes (executes run) ..).symm

/-- An event that is no step advances related replays, whatever the switches. -/
theorem apply_of_not_step
    {event : Event}
    (related : relation.Replays base size replays)
    (variants : relation.Variants analyses)
    (other : event.isStep = false) :
    relation.Advance base size replays fun run => (analyses run).apply (replays run) event := by
  obtain ⟨default, sameDefault⟩ := variants.default
  obtain ⟨calls, sameCalls⟩ := variants.calls
  obtain ⟨source, sameSource⟩ := variants.source
  have applied := related.apply
    (.intro AnalysisConfig.standard calls (variants.constant default) (variants.constant source))
    (variants.constant (event.label?.getD 0)) event
  rw [event.relabel_label] at applied
  refine Alike.congr (fun run => ?_) applied
  rw [Analysis.apply_of_not_step other, ← congrFun sameDefault run, ← congrFun sameCalls run,
    ← congrFun sameSource run]

/-- An event that runs to its end in all runs advances related replays. -/
theorem apply_of_ended
    {event : Event}
    (related : relation.Replays base size replays)
    (variants : relation.Variants analyses)
    (ended : ∀ run, ((analyses run).apply (replays run) event).result = .ok ()) :
    relation.Advance base size replays fun run => (analyses run).apply (replays run) event := by
  cases event with
  | step id instr context =>
      have counted : relation.Replays base size fun run => (replays run).countEvent :=
        related.count fun counted => { counted with events := counted.events + 1 }
      have stepped := counted.step_of_ended variants fun run => by
        rw [Replay.view_countEvent]
        exact Replay.action_ran Replay.countEvent_eq (ended run)
      refine counted.within id stepped ?_
      rintro counted values ⟨outcome, rfl⟩
      exact ⟨_, rfl⟩
  | callEntry | callReturn | taint | untaint | threadExit =>
      exact related.apply_of_not_step variants rfl

/-- A trace that runs to its end in all runs keeps the replays related. -/
theorem applyAll_of_ended
    {events : List Event}
    (run : Run)
    (related : relation.Replays base size replays)
    (variants : relation.Variants analyses)
    (ended : ∀ run, ((analyses run).applyAll (replays run) events).result = .ok ()) :
    relation.Replays base size fun run =>
      ((analyses run).applyAll (replays run) events).state := by
  induction events generalizing replays with
  | nil => exact related
  | cons event rest inductionHypothesis =>
      have first (run : Run) : ((analyses run).apply (replays run) event).result = .ok () := by
        obtain ⟨next, _, applied, -⟩ :=
          Reached.andThen_eq_done_iff.1 (Reached.eq_done (ended run))
        exact congrArg Reached.result applied
      obtain ⟨nexts, _, ⟨nextsRelated, -⟩, applied⟩ :=
        (related.apply_of_ended variants first).ends run (first run)
      simp only [Analysis.applyAll, applied, Reached.andThen_done] at ended ⊢
      exact inductionHypothesis nextsRelated ended

/-- What comes of an event that runs to its end in all runs. -/
theorem outcome?_of_ended
    {event : Event}
    (related : relation.Replays base size replays)
    (variants : relation.Variants analyses)
    (ended : ∀ run, ((analyses run).apply (replays run) event).result = .ok ()) :
    Unanimous fun run => (analyses run).outcome? (replays run) event := by
  cases event with
  | step id instr context =>
      have stepped := related.step_of_ended variants fun run =>
        Replay.action_ran Replay.countEvent_eq (ended run)
      have result := Alike.result (stepped.imp fun _ _ ends => ends.2.2)
      exact result.map some
  | callEntry | callReturn | taint | untaint | threadExit => exact ⟨none, rfl⟩

/-- The next event of a trace, if it runs to its end in all runs, adds findings at the same
sites, and the same comes of it. -/
theorem next_of_ended
    {events : List Event}
    {event : Event}
    {count : Nat}
    (run : Run)
    (related : relation.Replays base size replays)
    (variants : relation.Variants analyses)
    (next : events[count]? = some event)
    (ended : ∀ run,
      ((analyses run).applyAll (replays run) (events.take (count + 1))).result = .ok ()) :
    relation.Recorded
        (fun run => ((analyses run).applyAll (replays run) (events.take count)).state.findings)
        (fun run =>
          ((analyses run).applyAll (replays run) (events.take (count + 1))).state.findings) ∧
      Unanimous fun run =>
        (analyses run).outcome?
          ((analyses run).applyAll (replays run) (events.take count)).state event := by
  have parts (run : Run) := Analysis.applyAll_take_next next (ended run)
  have pasts := related.applyAll_of_ended run variants fun run => (parts run).1
  have last (run : Run) := (parts run).2
  simp only [last] at ended ⊢
  obtain ⟨nexts, _, ⟨-, recorded⟩, applied⟩ :=
    (pasts.apply_of_ended variants ended).ends run (ended run)
  simp only [applied]
  exact ⟨recorded, pasts.outcome?_of_ended variants ended⟩

theorem recorded_of_ended
    {events : List Event}
    {count : Nat}
    (run : Run)
    (related : relation.Replays base size replays)
    (variants : relation.Variants analyses)
    (ended : ∀ run,
      ((analyses run).applyAll (replays run) (events.take (count + 1))).result = .ok ()) :
    relation.Recorded
      (fun run => ((analyses run).applyAll (replays run) (events.take count)).state.findings)
      fun run =>
        ((analyses run).applyAll (replays run) (events.take (count + 1))).state.findings := by
  cases next : events[count]? with
  | none =>
      rw [List.take_add_one, next, Option.toList_none, List.append_nil]
      exact .ofEq (fun _ => rfl) (fun _ => rfl)
  | some event => exact (related.next_of_ended run variants next ended).1

end Replays
end LabelRelation

/-! ## Two settings -/

/-- The second settings differ from the first in their switches only, and each switch that
differs retains more taint in the second. -/
structure AnalysisConfig.RetainsMore (first second : AnalysisConfig) : Prop where
  shadowBase : first.shadowBase = second.shadowBase
  shadowSize : first.shadowSize = second.shadowSize
  defaultLabel : first.defaultLabel = second.defaultLabel
  exclusion : first.exclusion = second.exclusion
  stackAutoClear : second.stackAutoClear = true -> first.stackAutoClear = true
  clearExclusiveStatus :
    second.clearExclusiveStatus = true -> first.clearExclusiveStatus = true
  addressDependency : first.addressDependency = true -> second.addressDependency = true

/-- Every lane has at most the bits of the other. -/
def Lanes.Within (less more : Lanes) : Prop := less.union more = more

/-- One access is found at the same instruction and register as another, with at most its
taint. -/
structure TaintedAccess.Within (less more : TaintedAccess) : Prop where
  pc : less.pc = more.pc
  opcode : less.opcode = more.opcode
  reg : less.reg = more.reg
  isStore : less.isStore = more.isStore
  taint : less.taint.Within more.taint

/-- One jump is found at the same instruction as another, with at most its taint. -/
structure TaintedJump.Within (less more : TaintedJump) : Prop where
  pc : less.pc = more.pc
  opcode : less.opcode = more.opcode
  taint : less.taint.Within more.taint

/-- Every byte and every lane of a replay has at most the bits that it has in another, and
everything is counted alike. -/
structure Replay.Within (less more : Replay) : Prop where
  label : ∀ address,
    less.memory.labels.label address ||| more.memory.labels.label address =
      more.memory.labels.label address
  taint : ∀ id reg,
    (less.taint? id reg = none ∧ more.taint? id reg = none) ∨
      ∃ lessTaint moreTaint, less.taint? id reg = some lessTaint ∧
        more.taint? id reg = some moreTaint ∧ lessTaint.Within moreTaint
  statistics : less.statistics = more.statistics

/-- What retention says about the replays of the beginnings of a trace, as far as neither
is stopped. What is found in one event under the first analysis is found in the same event
under the second, in the same order, among other findings. -/
structure Retains
    (first second : Analysis)
    (events : List Event)
    (less more : Nat -> Reached Fault Replay Unit) : Prop where
  state : ∀ count, (less count).result = .ok () -> (more count).result = .ok () ->
    (less count).state.Within (more count).state
  outcome : ∀ count event, events[count]? = some event ->
    (less (count + 1)).result = .ok () -> (more (count + 1)).result = .ok () ->
    first.outcome? (less count).state event = second.outcome? (more count).state event
  accesses : ∀ count,
    (less (count + 1)).result = .ok () -> (more (count + 1)).result = .ok () ->
    ∃ lessAdded moreAdded,
      (less (count + 1)).state.report.accesses = (less count).state.report.accesses ++ lessAdded ∧
        (more (count + 1)).state.report.accesses =
          (more count).state.report.accesses ++ moreAdded ∧
        List.SublistForall₂ TaintedAccess.Within lessAdded moreAdded
  jumps : ∀ count,
    (less (count + 1)).result = .ok () -> (more (count + 1)).result = .ok () ->
    ∃ lessAdded moreAdded,
      (less (count + 1)).state.report.jumps = (less count).state.report.jumps ++ lessAdded ∧
        (more (count + 1)).state.report.jumps = (more count).state.report.jumps ++ moreAdded ∧
        List.SublistForall₂ TaintedJump.Within lessAdded moreAdded

/-- One of two replays: with less taint, or with more. -/
inductive Retention
  | less | more

/-- What belongs to each replay. -/
def Retention.pick (less more : Value) : Retention -> Value
  | .less => less
  | .more => more

theorem Retention.both
    {property : Retention -> Prop}
    (less : property .less)
    (more : property .more) :
    ∀ run, property run
  | .less => less
  | .more => more

namespace LabelRelation

/-- In the second replay there are the labels of the first, and others. -/
def inclusion : LabelRelation Retention where
  holds labels := labels .less ||| labels .more = labels .more
  zero := rfl
  union := by
    intro first second firstHolds secondHolds
    show (first .less ||| second .less) ||| (first .more ||| second .more) =
      first .more ||| second .more
    calc (first .less ||| second .less) ||| (first .more ||| second .more)
        = (first .less ||| first .more) ||| (second .less ||| second .more) := by ac_rfl
      _ = first .more ||| second .more := by rw [firstHolds, secondHolds]

/-- Labels stay included where the second replay keeps what the first keeps. -/
theorem inclusion_admits
    {kept : Retention -> Bool}
    (implied : kept .less = true -> kept .more = true) :
    inclusion.Admits kept := by
  intro labels included
  show (if kept .less then labels .less else 0) ||| (if kept .more then labels .more else 0) =
    if kept .more then labels .more else 0
  cases keeps : kept .less with
  | false =>
      rw [if_neg Bool.false_ne_true, UInt8.zero_or]
  | true =>
      rw [implied keeps, if_pos rfl, if_pos rfl]
      exact included

theorem inclusion_admits_not
    {cleared : Retention -> Bool}
    (implied : cleared .more = true -> cleared .less = true) :
    inclusion.Admits fun run => !cleared run := by
  refine inclusion_admits fun kept => ?_
  rw [Bool.not_eq_eq_eq_not, Bool.not_true] at kept ⊢
  rw [← Bool.not_eq_true] at kept ⊢
  exact mt implied kept

theorem Taints.within
    {taints : Retention -> Lanes}
    (related : inclusion.Taints taints) :
    (taints .less).Within (taints .more) :=
  Lanes.ext (related 0) (related 1) (related 2) (related 3)

theorem Replays.replayWithin
    {base size : Nat}
    {replays : Retention -> Replay}
    (related : inclusion.Replays base size replays) :
    (replays .less).Within (replays .more) where
  label := related.memories.label
  taint := by
    intro id reg
    obtain absent | ⟨taints, taintsRelated, present⟩ := related.taint? id reg
    · exact .inl ⟨absent .less, absent .more⟩
    · exact .inr ⟨_, _, present .less, present .more, taintsRelated.within⟩
  statistics := related.statistics.eq .less .more

end LabelRelation

/-- Where less taint is seen, more is seen. -/
theorem Lanes.Within.isTainted
    {less more : Lanes}
    (within : less.Within more)
    (tainted : less.isTainted = true) :
    more.isTainted = true := by
  cases moreTainted : more.isTainted with
  | true => rfl
  | false =>
      rw [Lanes.isTainted_eq_false_iff] at moreTainted
      rw [Within, moreTainted, Lanes.union_clean] at within
      rw [within] at tainted
      cases tainted

/-- What is recorded at some sites is recorded again where there is more taint. -/
theorem recordedAt_sublistForall
    {finding : Site -> Lanes -> Finding}
    {within : Finding -> Finding -> Prop}
    {less more : Site -> Lanes}
    (seen : ∀ site, (less site).Within (more site))
    (found : ∀ site, (less site).Within (more site) ->
      within (finding site (less site)) (finding site (more site)))
    (sites : List Site) :
    List.SublistForall₂ within (recordedAt finding sites less)
      (recordedAt finding sites more) := by
  induction sites with
  | nil => exact .nil
  | cons site rest inductionHypothesis =>
      rw [recordedAt, recordedAt, List.filterMap_cons, List.filterMap_cons]
      cases tainted : (less site).isTainted with
      | true =>
          rw [(seen site).isTainted tainted]
          exact .cons (found site (seen site)) inductionHypothesis
      | false =>
          cases (more site).isTainted with
          | true => exact .cons_right inductionHypothesis
          | false => exact inductionHypothesis

/-- What each replay adds to a list of findings, the first as far as the second has it. -/
theorem LabelRelation.Extends.within
    {finding : Site -> Lanes -> Finding}
    {within : Finding -> Finding -> Prop}
    {befores afters : Retention -> Array Finding}
    (extended : inclusion.Extends finding befores afters)
    (found : ∀ site less more, Lanes.Within less more ->
      within (finding site less) (finding site more)) :
    ∃ lessAdded moreAdded,
      (afters .less).toList = (befores .less).toList ++ lessAdded ∧
        (afters .more).toList = (befores .more).toList ++ moreAdded ∧
        List.SublistForall₂ within lessAdded moreAdded := by
  obtain ⟨sites, taints, related, added⟩ := extended
  refine ⟨recordedAt finding sites (taints .less), recordedAt finding sites (taints .more),
    ?_, ?_, ?_⟩
  · rw [added .less, Array.toList_appendList]
  · rw [added .more, Array.toList_appendList]
  · exact recordedAt_sublistForall (fun site => (related site).within)
      (fun site => found site _ _) sites

namespace AnalysisConfig.RetainsMore

variable {first second : AnalysisConfig}

/-- Both settings say the same about the value. -/
theorem unanimous
    {setting : AnalysisConfig -> Value}
    (same : setting first = setting second) :
    Unanimous fun run => setting (Retention.pick first second run) :=
  ⟨setting first, funext (Retention.both rfl same.symm)⟩

theorem variants
    (retains : first.RetainsMore second)
    (calls : List UInt32)
    (source : UInt8) :
    LabelRelation.inclusion.Variants
      fun run => ⟨Retention.pick first second run, calls, source⟩ where
  settings := {
    exclusion := unanimous retains.exclusion
    index := LabelRelation.inclusion_admits retains.addressDependency
    status := LabelRelation.inclusion_admits_not retains.clearExclusiveStatus
    frame := LabelRelation.inclusion_admits_not retains.stackAutoClear }
  default := unanimous retains.defaultLabel
  calls := ⟨calls, rfl⟩
  source := ⟨source, rfl⟩
  constant := fun _ => UInt8.or_self

theorem createMemory_eq (retains : first.RetainsMore second) :
    second.createMemory = first.createMemory := by
  rw [createMemory, createMemory, retains.shadowBase, retains.shadowSize]

end AnalysisConfig.RetainsMore

/-- Of two settings that differ in switches only, the one whose switches retain more taint
has after every event at least the taint of the other, and at least its findings in every
event, with at least their taint; outcomes and counts are the same. -/
theorem AnalysisConfig.RetainsMore.retains
    {first second : AnalysisConfig}
    (more : first.RetainsMore second)
    (calls : List UInt32)
    (source : UInt8)
    (events : List Event)
    {memory : Memory}
    (created : first.createMemory = .ok memory) :
    second.createMemory = .ok memory ∧
      Retains ⟨first, calls, source⟩ ⟨second, calls, source⟩ events
        (fun count =>
          (Analysis.mk first calls source).applyAll (.start memory) (events.take count))
        fun count =>
          (Analysis.mk second calls source).applyAll (.start memory) (events.take count) := by
  refine ⟨more.createMemory_eq.trans created, ?_⟩
  have variants := more.variants calls source
  have start : LabelRelation.inclusion.Replays first.shadowBase.toNat first.shadowSize.toNat
      fun _ => Replay.start memory := .start (Memory.labels_of_create created)
  refine ⟨?state, ?outcome, ?accesses, ?jumps⟩
  case state =>
    intro count lessEnded moreEnded
    exact (start.applyAll_of_ended .less variants (Retention.both lessEnded moreEnded)).replayWithin
  case outcome =>
    intro count event next lessEnded moreEnded
    have following := start.next_of_ended .less variants next (Retention.both lessEnded moreEnded)
    exact following.2.eq .less .more
  case accesses =>
    intro count lessEnded moreEnded
    have recorded := start.recorded_of_ended .less variants (Retention.both lessEnded moreEnded)
    exact recorded.accesses.within fun site _ _ within => ⟨rfl, rfl, rfl, rfl, within⟩
  case jumps =>
    intro count lessEnded moreEnded
    have recorded := start.recorded_of_ended .less variants (Retention.both lessEnded moreEnded)
    exact recorded.jumps.within fun site _ _ within => ⟨rfl, rfl, within⟩

/-- A clean word is loaded into the program counter through a tainted index: a jump only
under the settings by which loads have the taint of the index. -/
theorem AnalysisConfig.RetainsMore.retains_index :
    let first := { AnalysisConfig.standard with shadowSize := 16, addressDependency := false }
    let second :=
      { first with
        stackAutoClear := false
        clearExclusiveStatus := false
        addressDependency := true }
    let load : Operation := .load .word ⟨1⟩ ⟨⟨2⟩, none, 0, false, 0, .offset⟩
    let jump : Operation := .load .word Reg.pc ⟨⟨2⟩, some ⟨1⟩, 0, false, 0, .offset⟩
    let events : List Event :=
      [.taint 0 4 (some 3), .step 1 ⟨0, .ldr, none, load⟩ Context.zero,
        .step 1 ⟨4, .ldr, none, jump⟩ (Context.zero.setValue ⟨1⟩ 4)]
    let memory : Memory := ⟨0, 16, Array.replicate 1 none, by decide, by decide⟩
    let less := fun count =>
      (Analysis.mk first [] 1).applyAll (.start memory) (events.take count)
    let more := fun count =>
      (Analysis.mk second [] 1).applyAll (.start memory) (events.take count)
    Retains ⟨first, [], 1⟩ ⟨second, [], 1⟩ events less more ∧
      (less 3).result = .ok () ∧ (more 3).result = .ok () ∧
      (less 3).state.report.jumps = [] ∧
      (more 3).state.report.jumps = [⟨4, .ldr, Lanes.splat 3⟩] := by
  intro first second load jump events memory less more
  have differ : first.RetainsMore second :=
    ⟨rfl, rfl, rfl, rfl, fun _ => rfl, fun _ => rfl, fun _ => rfl⟩
  have created : Memory.create 0 16 = .ok memory := rfl
  obtain ⟨-, retains⟩ := differ.retains [] 1 events created
  refine ⟨retains, ?_⟩
  decide +kernel

end ShadowTaint
