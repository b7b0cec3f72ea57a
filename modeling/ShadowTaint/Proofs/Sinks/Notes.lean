import ShadowTaint.Proofs.Trace.Balances

/-!
# What sinks note along a replay

A replay meets the events of a trace one after the other, up to the one that stops it.
Sinks take notes at steps only: before the rule of an instruction that executes, and
after it unless the rule is stopped. What they have noted in the end, also at the end of a
replay that was stopped, is what they note at each meeting, in the order of the meetings.
-/

namespace ShadowTaint

variable {analysis : Analysis} {replay : Replay} {instr : Instruction} {context : Context}

/-! ## Meetings -/

namespace Analysis

/-- The events that a replay meets, up to the one that stops it, each with the replay as
it is then. -/
def meetings (analysis : Analysis) (replay : Replay) : List Event -> List Meeting
  | [] => []
  | event :: rest =>
      ⟨replay, event⟩ ::
        match analysis.apply replay event with
        | ⟨next, .ok ()⟩ => analysis.meetings next rest
        | ⟨_, .error _⟩ => []

/-- Events are met in the order of the trace, all of them unless one stops the replay. -/
theorem event_meetings
    (analysis : Analysis)
    (replay : Replay)
    (events : List Event) :
    (analysis.meetings replay events).map Meeting.event <+: events ∧
      ((analysis.applyAll replay events).result = .ok () ->
        (analysis.meetings replay events).map Meeting.event = events) := by
  induction events generalizing replay with
  | nil => exact ⟨List.prefix_rfl, fun _ => rfl⟩
  | cons event rest inductionHypothesis =>
      rw [meetings, applyAll, List.map_cons, List.prefix_cons_inj]
      generalize analysis.apply replay event = applied
      obtain ⟨next, result⟩ := applied
      cases result with
      | ok =>
          obtain ⟨inOrder, complete⟩ := inductionHypothesis next
          exact ⟨inOrder, fun ended => congrArg (event :: ·) (complete ended)⟩
      | error fault =>
          refine ⟨List.nil_prefix, ?_⟩
          intro ended
          cases ended

section Invariant

variable
  (invariant : Replay -> Prop)
  (keeps : ∀ replay event, invariant replay -> (analysis.apply replay event).result = .ok () ->
    invariant (analysis.apply replay event).state)

include keeps

/-- If each event adds certain notes, a replay has in the end added those of its meetings. -/
theorem applyAll_notes
    (noted : Findings -> List Note)
    (notes : Meeting -> List Note)
    (each : ∀ replay event, invariant replay ->
      noted (analysis.apply replay event).state.findings =
        noted replay.findings ++ notes ⟨replay, event⟩)
    (holds : invariant replay)
    (events : List Event) :
    noted (analysis.applyAll replay events).state.findings =
      noted replay.findings ++ (analysis.meetings replay events).flatMap notes := by
  induction events generalizing replay with
  | nil => exact (List.append_nil _).symm
  | cons event rest inductionHypothesis =>
      have kept := keeps replay event holds
      have added := each replay event holds
      rw [applyAll, meetings, List.flatMap_cons]
      generalize analysis.apply replay event = applied at kept added
      obtain ⟨next, result⟩ := applied
      cases result with
      | ok =>
          have later := inductionHypothesis (kept rfl)
          rw [added, List.append_assoc] at later
          exact later
      | error fault =>
          rw [List.flatMap_nil, List.append_nil]
          exact added

end Invariant
end Analysis

/-! ## Notes of one event -/

/-- The observer looks twice at an instruction that executes, but only once if its rule is
stopped. -/
theorem Watched.findings_step_of_executes
    {Notes : Type}
    {watched : Watched Notes}
    (executes : (watched.thread.arrive instr context).executes instr = true)
    (observer : Observer Notes)
    (config : AnalysisConfig) :
    (watched.step observer config instr context).state.findings =
      match instr.execute config context ⟨watched.thread.registers, watched.memory⟩ with
      | ⟨after, .ok _⟩ =>
          observer.after instr after.registers
            (observer.before instr watched.thread.registers watched.findings)
      | ⟨_, .error _⟩ => observer.before instr watched.thread.registers watched.findings := by
  rw [step_of_executes executes, act]
  dsimp only [Thread.registers_arrive]
  generalize instr.execute config context _ = executed
  obtain ⟨after, result⟩ := executed
  cases result <;> rfl

namespace Analysis

theorem findings_enterCall
    (analysis : Analysis)
    (number : UInt32)
    (arguments : List UInt32)
    (focus : Focus) :
    (analysis.enterCall number arguments focus).state.findings = focus.findings := by
  rw [enterCall]
  split
  · split <;> rfl
  · rfl

/-- The return of a call adds input bytes at most. -/
theorem findings_leaveCall (analysis : Analysis) (call : CallReturn) (focus : Focus) :
    ∃ bytes,
      (analysis.leaveCall call focus).state.findings = focus.findings.addInput bytes := by
  rw [leaveCall, Watched.act]
  dsimp only
  generalize (call.cross _).andThen _ = crossed
  obtain ⟨after, result⟩ := crossed
  cases result with
  | ok => exact ⟨_, rfl⟩
  | error fault => exact ⟨0, rfl⟩

/-- Events that are no steps add no jumps and no accesses. -/
theorem findings_apply_of_not_step
    {event : Event}
    (other : event.isStep = false)
    (analysis : Analysis)
    (replay : Replay) :
    ∃ bytes,
      (analysis.apply replay event).state.findings = replay.findings.addInput bytes := by
  cases event with
  | step id instr context => cases other
  | callEntry id number arguments =>
      refine ⟨0, ?_⟩
      rw [apply, Replay.findings_within, findings_enterCall, Replay.findings_view]
      rfl
  | callReturn id call =>
      obtain ⟨bytes, added⟩ := analysis.findings_leaveCall call (replay.countEvent.view id)
      refine ⟨bytes, ?_⟩
      rw [apply, Replay.findings_within, added, Replay.findings_view]
      rfl
  | taint address length label? | untaint address length =>
      refine ⟨0, ?_⟩
      rw [apply, Replay.changeMemory]
      split <;> rfl
  | threadExit id =>
      refine ⟨0, ?_⟩
      rw [apply, Reached.done, Replay.endThread]
      split <;> rfl

/-- A step adds what it adds to the findings of its thread's view. -/
theorem findings_apply_step
    (analysis : Analysis)
    (replay : Replay)
    (id : UInt32)
    (instr : Instruction)
    (context : Context) :
    (analysis.apply replay (.step id instr context)).state.findings =
      (analysis.step instr context (replay.view id)).state.findings := by
  rw [apply, Replay.findings_within, Replay.view_countEvent]

end Analysis
end ShadowTaint
