import ShadowTaint.Proofs.Flags.Decision
import ShadowTaint.Proofs.Values.Visible

/-!
# Traces that only differ in values

A trace may be replaced by one that differs in recorded values, as long as the registers
that form addresses and the flags that are looked at are the same; at a skipped step even
another operation may stand. Both traces are replayed to the same fault or to the same
report, memory and taint. The relation between two such replays is that they look the
same, which every event preserves.
-/

namespace ShadowTaint

/-! ## What looks the same stays looking the same -/

namespace Watched

variable {Notes : Type} {first second : Watched Notes}

/-- What looks the same in view is the same up to remembered flags. -/
theorem eq_of_visible (same : first.visible = second.visible) :
    ∃ flags, flags.visible = first.thread.observed.visible ∧
      second = { first with thread := { first.thread with observed := flags } } := by
  obtain ⟨thread, memory, notes⟩ := second
  obtain ⟨sameThread, rfl, rfl⟩ := Watched.mk.inj same
  obtain ⟨flags, sameFlags, rfl⟩ := Thread.eq_of_visible sameThread
  exact ⟨flags, sameFlags, rfl⟩

/-- Steps that are both skipped look the same, whatever their operations are. -/
theorem visible_step_skipped
    {firstInstr secondInstr : Instruction}
    {firstContext secondContext : Context}
    (same : first.visible = second.visible)
    (opcode : firstInstr.opcode = secondInstr.opcode)
    (predicate : firstInstr.predicate = secondInstr.predicate)
    (flags : flagsOutdated first.thread.previous = true ->
      firstContext.flags.visible = secondContext.flags.visible)
    (skips : (first.thread.arrive firstInstr firstContext).executes firstInstr = false)
    (observer : Observer Notes)
    (config : AnalysisConfig) :
    (first.step observer config firstInstr firstContext).mapState visible =
      (second.step observer config secondInstr secondContext).mapState visible := by
  obtain ⟨sameThread, sameMemory, sameFindings⟩ := Watched.mk.inj same
  have arrived := Thread.visible_arrive sameThread opcode flags
  have skipsToo := Thread.executes_congr arrived predicate
  rw [step_of_not_executes skips, step_of_not_executes (skipsToo.symm.trans skips)]
  simp only [Reached.mapState, Reached.done, visible, arrived, sameMemory, sameFindings]

/-- Steps of one instruction look the same if the consulted registers agree. -/
theorem visible_step
    {instr : Instruction}
    {firstContext secondContext : Context}
    {config : AnalysisConfig}
    (same : first.visible = second.visible)
    (agree : ∀ reg ∈ instr.consultedRegs config,
      firstContext.value reg = secondContext.value reg)
    (flags : flagsOutdated first.thread.previous = true ->
      firstContext.flags.visible = secondContext.flags.visible)
    (observer : Observer Notes) :
    (first.step observer config instr firstContext).mapState visible =
      (second.step observer config instr secondContext).mapState visible := by
  cases executes : (first.thread.arrive instr firstContext).executes instr with
  | false => exact visible_step_skipped same rfl rfl flags executes observer config
  | true =>
      obtain ⟨sameThread, -, -⟩ := Watched.mk.inj same
      have arrived := Thread.visible_arrive sameThread (rfl : instr.opcode = instr.opcode) flags
      have executesToo := (Thread.executes_congr arrived rfl).symm.trans executes
      obtain ⟨observed, sameFlags, sameArrival⟩ := Thread.eq_of_visible arrived
      obtain ⟨known, -, rfl⟩ := eq_of_visible same
      rw [step_of_executes executes, step_of_executes executesToo, sameArrival, act, act]
      dsimp only
      rw [Instruction.execute_congr agree]
      generalize instr.execute config secondContext _ = executed
      obtain ⟨shadow, result⟩ := executed
      cases result with
      | error fault =>
          simp only [Reached.mapState, Reached.andThen, Reached.stopped, visible, Thread.visible,
            sameFlags]
      | ok outcome =>
          cases outcome <;>
            simp only [Reached.mapState, Reached.andThen, Reached.done, finish, visible,
              Thread.visible, Thread.setRegister, Thread.countUnhandled, sameFlags]

end Watched

namespace Analysis

variable {first second : Focus}

theorem visible_enterCall
    (same : first.visible = second.visible)
    (analysis : Analysis)
    (number : UInt32)
    (arguments : List UInt32) :
    (analysis.enterCall number arguments first).mapState Watched.visible =
      (analysis.enterCall number arguments second).mapState Watched.visible := by
  obtain ⟨flags, sameFlags, rfl⟩ := Watched.eq_of_visible same
  rw [enterCall, enterCall]
  split
  · dsimp only
    split <;>
      simp only [Reached.mapState, Reached.done, Reached.stopped, Watched.visible,
        Thread.visible, Thread.setRegister, sameFlags]
  · simp only [Reached.mapState, Reached.done, Watched.visible, Thread.visible, sameFlags]

theorem visible_leaveCall
    (same : first.visible = second.visible)
    (analysis : Analysis)
    (call : CallReturn) :
    (analysis.leaveCall call first).mapState Watched.visible =
      (analysis.leaveCall call second).mapState Watched.visible := by
  obtain ⟨flags, sameFlags, rfl⟩ := Watched.eq_of_visible same
  rw [leaveCall, leaveCall, Watched.act, Watched.act]
  dsimp only
  generalize (call.cross _).andThen _ = crossed
  obtain ⟨shadow, result⟩ := crossed
  cases result <;>
    simp only [Reached.mapState, Reached.andThen, Reached.done, Reached.stopped,
      Watched.visible, Thread.visible, sameFlags]

end Analysis

/-! ## Interchangeable traces -/

/-- An event that may stand in place of another after some past. -/
inductive Event.Alternative
    (analysis : Analysis)
    (memory : Memory)
    (past : List Event) : Event -> Event -> Prop
  | same (event : Event) : Alternative analysis memory past event event
  /-- Other values, save those of registers that form an address that is used and those
  of flags behind a flag-affecting opcode. -/
  | values
      (id : UInt32)
      (instr : Instruction)
      {first second : Context}
      (agree : ∀ reg ∈ instr.consultedRegs analysis.config, first.value reg = second.value reg)
      (flags : flagsOutdated (lastOpcode? (arrivals id past)) = true ->
        first.flags.visible = second.flags.visible) :
      Alternative analysis memory past (.step id instr first) (.step id instr second)
  /-- Another operation on any values, in place of a step that is skipped. -/
  | skipped
      (id : UInt32)
      {first second : Instruction}
      {firstContext secondContext : Context}
      (ran : (analysis.applyAll (Replay.start memory) past).result = .ok ())
      (skips : analysis.outcome? (analysis.applyAll (Replay.start memory) past).state
        (.step id first firstContext) = some (.ok .skipped))
      (opcode : first.opcode = second.opcode)
      (predicate : first.predicate = second.predicate)
      (flags : flagsOutdated (lastOpcode? (arrivals id past)) = true ->
        firstContext.flags.visible = secondContext.flags.visible) :
      Alternative analysis memory past (.step id first firstContext)
        (.step id second secondContext)

/-- Traces with alternative events throughout. -/
inductive Interchangeable (analysis : Analysis) (memory : Memory) :
    List Event -> List Event -> Prop
  | nil : Interchangeable analysis memory [] []
  | concat
      {first second : List Event}
      {firstLast secondLast : Event}
      (earlier : Interchangeable analysis memory first second)
      (last : Event.Alternative analysis memory first firstLast secondLast) :
      Interchangeable analysis memory (first ++ [firstLast]) (second ++ [secondLast])

variable {analysis : Analysis} {memory : Memory}

namespace Interchangeable

variable {first second : List Event}

theorem length_eq (interchangeable : Interchangeable analysis memory first second) :
    first.length = second.length := by
  induction interchangeable with
  | nil => rfl
  | concat earlier last inductionHypothesis =>
      rw [List.length_append, List.length_append, inductionHypothesis]
      rfl

/-- Traces are interchangeable up to every event. -/
theorem take
    (interchangeable : Interchangeable analysis memory first second)
    (count : Nat) :
    Interchangeable analysis memory (first.take count) (second.take count) := by
  induction interchangeable with
  | nil => simpa using nil
  | @concat first second firstLast secondLast earlier last inductionHypothesis =>
      have sameLength := earlier.length_eq
      by_cases short : count ≤ first.length
      · rw [List.take_append_of_le_length short,
          List.take_append_of_le_length (sameLength ▸ short)]
        exact inductionHypothesis
      · rw [List.take_of_length_le, List.take_of_length_le]
        · exact concat earlier last
        · rw [List.length_append, List.length_singleton]
          omega
        · rw [List.length_append, List.length_singleton]
          omega

end Interchangeable

namespace Analysis

/-- Alternative events keep replays looking the same, and are met with one result. -/
theorem apply_alternative
    {past : List Event}
    {second : Replay}
    {firstEvent secondEvent : Event}
    (ran : (analysis.applyAll (Replay.start memory) past).result = .ok ())
    (same : (analysis.applyAll (Replay.start memory) past).state.visible = second.visible)
    (alternative : Event.Alternative analysis memory past firstEvent secondEvent) :
    (analysis.apply (analysis.applyAll (Replay.start memory) past).state firstEvent).mapState
        Replay.visible =
      (analysis.apply second secondEvent).mapState Replay.visible := by
  have remembers := applyAll_remembers ran
  generalize reached : (analysis.applyAll (Replay.start memory) past).state = first at *
  have counted : first.countEvent.visible = second.countEvent.visible :=
    congrArg Replay.countEvent same
  have viewed (id : UInt32) :
      (first.countEvent.view id).visible = (second.countEvent.view id).visible := by
    rw [Replay.visible_view, counted, Replay.visible_view]
  have previous (id : UInt32) :
      (first.countEvent.view id).thread.previous = lastOpcode? (arrivals id past) := by
    rw [Replay.view_countEvent, (remembers id).previous]
  cases alternative with
  | values id instr agree flags =>
      rw [← previous] at flags
      exact Replay.visible_within counted (Watched.visible_step (viewed id) agree flags _) _
  | skipped id _ skips opcode predicate flags =>
      rw [← previous] at flags
      have executesNot := (Watched.step_skipped_iff _ _).1 (Option.some.inj (reached ▸ skips))
      rw [← Replay.view_countEvent] at executesNot
      exact Replay.visible_within counted
        (Watched.visible_step_skipped (viewed id) opcode predicate flags executesNot _ _) _
  | same =>
      cases firstEvent with
      | step id instr context =>
          exact Replay.visible_within counted
            (Watched.visible_step (viewed id) (fun _ _ => rfl) (fun _ => rfl) _) _
      | callEntry id number arguments =>
          have called : first.countEvent.countCall.visible =
              second.countEvent.countCall.visible := congrArg Replay.countCall counted
          refine Replay.visible_within called
            (visible_enterCall ?_ analysis number arguments) _
          rw [Replay.view_countCall, Replay.view_countCall]
          exact viewed id
      | callReturn id call =>
          exact Replay.visible_within counted (visible_leaveCall (viewed id) analysis call) _
      | taint address length label? | untaint address length =>
          obtain ⟨sameMemory, sameTable, sameCounted, sameFindings⟩ := Replay.mk.inj counted
          rw [apply, apply, Replay.changeMemory, Replay.changeMemory, ← sameMemory]
          split <;>
            simp only [Reached.mapState, Reached.done, Reached.stopped, Replay.visible,
              sameTable, sameCounted, sameFindings, ← sameMemory]
      | threadExit id =>
          rw [apply, apply]
          simp only [Reached.mapState, Reached.done, Replay.visible_endThread, counted]

/-- Interchangeable traces are replayed to replays that look the same, with one result. -/
theorem applyAll_interchangeable
    {first second : List Event}
    (interchangeable : Interchangeable analysis memory first second) :
    (analysis.applyAll (Replay.start memory) first).mapState Replay.visible =
      (analysis.applyAll (Replay.start memory) second).mapState Replay.visible := by
  induction interchangeable with
  | nil => rfl
  | @concat first second firstLast secondLast earlier last inductionHypothesis =>
      have alternative := @apply_alternative analysis memory first
      rw [applyAll_concat, applyAll_concat]
      revert inductionHypothesis alternative
      generalize analysis.applyAll (Replay.start memory) second = secondRan
      generalize reached : analysis.applyAll (Replay.start memory) first = firstRan
      obtain ⟨firstState, firstResult⟩ := firstRan
      obtain ⟨secondState, secondResult⟩ := secondRan
      intro inductionHypothesis alternative
      obtain ⟨sameState, rfl⟩ := Reached.mk.inj inductionHypothesis
      cases firstResult with
      | ok => exact alternative rfl sameState last
      | error fault => exact congrArg (Reached.mk · _) sameState

/-- A replay depends on recorded values through addresses and observed flags only:
interchangeable traces meet the same fault at the same event, or none, and up to every
event they give the same memory, the same report and the same taint. -/
theorem applyAll_eq_of_interchangeable
    (analysis : Analysis)
    (memory : Memory)
    {first second : List Event}
    (interchangeable : Interchangeable analysis memory first second)
    (count : Nat) :
    let firstRun := analysis.applyAll (Replay.start memory) (first.take count)
    let secondRun := analysis.applyAll (Replay.start memory) (second.take count)
    firstRun.result = secondRun.result ∧
    firstRun.state.memory = secondRun.state.memory ∧
    firstRun.state.statistics = secondRun.state.statistics ∧
    firstRun.state.findings = secondRun.state.findings ∧
    ∀ id reg, firstRun.state.taint? id reg = secondRun.state.taint? id reg := by
  intro firstRun secondRun
  obtain ⟨sameState, sameResult⟩ :=
    Reached.mk.inj (applyAll_interchangeable (interchangeable.take count))
  obtain ⟨sameMemory, -, -, sameFindings⟩ := Replay.mk.inj sameState
  exact ⟨sameResult, sameMemory, Replay.statistics_congr sameState, sameFindings,
    Replay.taint?_congr sameState⟩

/-- After a comparison of other values, a load may stand in place of a skipped move. -/
theorem applyAll_eq_of_interchangeable_skipped :
    let compare (values : Vector UInt32 16) : Event :=
      .step 1 ⟨0, .cmp, none, .inert⟩ ⟨values, Flags.carry⟩
    let load : Operation := .load .word ⟨0⟩ ⟨⟨2⟩, none, 0, false, 0, .offset⟩
    let analysis : Analysis := ⟨AnalysisConfig.standard, [], 1⟩
    let first : List Event := [compare Context.zero.values,
      .step 1 ⟨4, .mov, some .ne, .constant ⟨0⟩⟩ ⟨Context.zero.values, Flags.zero⟩]
    let second : List Event := [compare (Vector.replicate 16 7),
      .step 1 ⟨8, .mov, some .ne, load⟩ ⟨Vector.replicate 16 9, ⟨0x40000001⟩⟩]
    ∃ memory, Memory.create 0 16 = .ok memory ∧
      Interchangeable analysis memory first second ∧
      (analysis.applyAll (Replay.start memory) (first.take 2)).result =
        (analysis.applyAll (Replay.start memory) (second.take 2)).result := by
  intro compare load analysis first second
  have replayed (memory : Memory)
      (interchangeable : Interchangeable analysis memory first second) :=
    And.intro interchangeable
      (applyAll_eq_of_interchangeable analysis memory interchangeable 2).1
  refine ⟨_, rfl, replayed _ (.concat (.concat .nil ?compared) ?moved)⟩
  case compared =>
    exact .values 1 _ (fun _ member => nomatch member) (fun outdated => nomatch outdated)
  case moved =>
    refine .skipped 1 rfl ?_ rfl rfl (fun _ => by decide)
    exact congrArg some ((Watched.step_skipped_iff _ _).2 (by decide))

end Analysis
end ShadowTaint
