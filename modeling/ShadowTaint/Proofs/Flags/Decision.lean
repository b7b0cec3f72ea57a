import ShadowTaint.Proofs.Flags.History

/-!
# Predicates are decided by the latest flags

Along every replay a thread remembers the flags of its incarnation, so a step is
skipped exactly when its predicate is false under the latest flags of the history. A
skipped step is only looked at: beside the counts, nothing but the remembered flags and
opcode of its thread changes.
-/

namespace ShadowTaint

variable {config : AnalysisConfig} {context : Context} {instr : Instruction}

/-- An instruction that executes is not skipped by its rule. -/
theorem Instruction.execute_ne_skipped
    (config : AnalysisConfig)
    (context : Context)
    (instr : Instruction)
    (shadow : Shadow) :
    (instr.execute config context shadow).result ≠ .ok .skipped := by
  rw [execute]
  generalize instr.clearNewFrame config context shadow = cleared
  obtain ⟨framed, result⟩ := cleared
  cases result with
  | error fault => nofun
  | ok =>
      show (instr.propagate config context framed).result ≠ .ok .skipped
      rw [propagate]
      split
      · nofun
      · cases instr.zeroingTarget? with
        | some target => nofun
        | none =>
            dsimp only
            generalize instr.operation.propagate config instr.opcode context framed = ruled
            obtain ⟨after, result⟩ := ruled
            cases result with
            | error fault => nofun
            | ok => cases instr.operation <;> nofun

/-- A step is skipped exactly if its instruction does not execute. -/
theorem Watched.step_skipped_iff
    (observer : Observer Notes)
    (watched : Watched Notes) :
    (watched.step observer config instr context).result = .ok .skipped ↔
      (watched.thread.arrive instr context).executes instr = false := by
  cases executes : (watched.thread.arrive instr context).executes instr with
  | false => simp [step_of_not_executes executes, Reached.done]
  | true =>
      rw [step_of_executes executes, act]
      refine iff_of_false ?_ Bool.false_ne_true.symm
      have notSkipped := instr.execute_ne_skipped config context
        ⟨(watched.thread.arrive instr context).registers, watched.memory⟩
      revert notSkipped
      generalize instr.execute config context _ = executed
      intro notSkipped
      obtain ⟨shadow, result⟩ := executed
      cases result with
      | error fault => exact notSkipped
      | ok outcome => exact notSkipped

namespace Analysis

variable {analysis : Analysis} {memory : Memory} {past : List Event}

/-- Along a replay every thread remembers its incarnation. -/
theorem applyAll_remembers
    (ran : (analysis.applyAll (Replay.start memory) past).result = .ok ())
    (id : UInt32) :
    (analysis.applyAll (Replay.start memory) past).state.Remembers id (arrivals id past) := by
  induction past using List.reverseRecOn with
  | nil => constructor <;> rw [Replay.thread_view] <;> rfl
  | append_singleton earlier event inductionHypothesis =>
      rw [applyAll_concat] at ran ⊢
      obtain ⟨reached, value, earlierRan, -⟩ :=
        Reached.andThen_eq_done_iff.1 (Reached.eq_done ran)
      rw [earlierRan] at inductionHypothesis ⊢
      exact analysis.apply_remembers (inductionHypothesis rfl) event

/-- What a skipped step leaves behind. -/
theorem apply_skipped
    {replay : Replay}
    {id : UInt32}
    (skipped : analysis.outcome? replay (.step id instr context) = some (.ok .skipped)) :
    analysis.apply replay (.step id instr context) =
      .done
        { memory := replay.memory
          threads := replay.threads.insert ((replay.view id).thread.arrive instr context)
          counted := { replay.counted with
            events := replay.counted.events + 1
            skipped := replay.counted.skipped + 1
            threads := replay.counted.threads +
              if (replay.threads.find? id).isSome then 0 else 1 }
          findings := replay.findings } () := by
  have executesNot := (Watched.step_skipped_iff _ _).1 (Option.some.inj skipped)
  have here : ((replay.view id).thread.arrive instr context).id = id := replay.id_view id
  rw [apply]
  dsimp only
  rw [Replay.within_eq, Replay.view_countEvent, step, Watched.step_of_not_executes executesNot]
  simp only [Reached.done, Reached.mapState, Reached.andThen, Replay.putBack]
  rw [Replay.insert_begin _ here, Replay.memory_view, Replay.findings_view]
  unfold Replay.begin Replay.countEvent Replay.count Statistics.countOutcome
  dsimp only
  cases (replay.threads.find? id).isSome <;> rfl

/-- At each step the thread knows the latest flags of its incarnation. They decide the
predicate, a step that is skipped changes nothing else, and where recorded flags are
settled they are those recorded at the step. -/
theorem step_decided_by_history
    (analysis : Analysis)
    (memory : Memory)
    (past : List Event)
    (id : UInt32)
    (instr : Instruction)
    (context : Context)
    (ran : (analysis.applyAll (Replay.start memory) past).result = .ok ()) :
    let replay := (analysis.applyAll (Replay.start memory) past).state
    let event := Event.step id instr context
    let mirror := latestFlags (arrivals id (past ++ [event]))
    ((replay.view id).thread.arrive instr context).observed = mirror ∧
    (analysis.outcome? replay event = some (.ok .skipped) ↔
      ∃ cond, instr.predicate = some cond ∧ cond ≠ .al ∧ cond.holds mirror = false) ∧
    (analysis.outcome? replay event = some (.ok .skipped) ->
      analysis.apply replay event =
        .done
          { memory := replay.memory
            threads := replay.threads.insert { (replay.view id).thread with
              observed := mirror
              previous := some instr.opcode }
            counted := { replay.counted with
              events := replay.counted.events + 1
              skipped := replay.counted.skipped + 1
              threads := replay.counted.threads +
                if (replay.threads.find? id).isSome then 0 else 1 }
            findings := replay.findings } ()) ∧
    (FlagsSettled (arrivals id (past ++ [event])) ->
      (∃ arrival ∈ arrivals id past, arrival.instr.opcode.affectsFlags = true) ->
        mirror = context.flags) := by
  intro replay event mirror
  have remembers : replay.Remembers id (arrivals id past) := applyAll_remembers ran id
  have history : arrivals id (past ++ [event]) = arrivals id past ++ [⟨instr, context⟩] := by
    rw [arrivals_concat (by simp [event])]
    simp [event, Event.arrival?]
  have observed : ((replay.view id).thread.arrive instr context).observed = mirror := by
    simp only [mirror, history]
    rw [latestFlags_concat, ← remembers.observed, ← remembers.previous]
    rfl
  refine ⟨observed, ?decided, ?kept, ?settled⟩
  case decided =>
    have skips : analysis.outcome? replay event = some (.ok .skipped) ↔
        ((replay.view id).thread.arrive instr context).executes instr = false :=
      Option.some_inj.trans (Watched.step_skipped_iff _ _)
    rw [skips, Thread.executes_eq_false_iff, observed]
    simp only [Instruction.condition?_eq_some_iff, and_assoc]
  case kept =>
    intro skipped
    rw [← observed]
    exact apply_skipped skipped
  case settled =>
    intro settled affected
    rw [history] at settled
    simp only [mirror, history]
    exact latestFlags_of_settled settled affected

/-- A move on inequality is skipped after a comparison that turned out equal, with a
call of another thread in between. -/
theorem step_decided_by_history_unequal :
    let instr : Instruction := ⟨4, .mov, some .ne, .constant ⟨0⟩⟩
    let context : Context := { Context.zero with flags := Flags.zero }
    let past : List Event := [.step 1 ⟨0, .cmp, none, .inert⟩ Context.zero, .callEntry 2 20 []]
    let analysis : Analysis := ⟨AnalysisConfig.standard, [], 1⟩
    ∃ memory, Memory.create 0 16 = .ok memory ∧
      (analysis.applyAll (Replay.start memory) past).result = .ok () ∧
      analysis.outcome? (analysis.applyAll (Replay.start memory) past).state
        (.step 1 instr context) = some (.ok .skipped) := by
  refine ⟨_, rfl, rfl, ?_⟩
  refine (step_decided_by_history _ _ _ 1 _ _ rfl).2.1.2 ⟨.ne, rfl, by decide, ?_⟩
  decide

end Analysis
end ShadowTaint
