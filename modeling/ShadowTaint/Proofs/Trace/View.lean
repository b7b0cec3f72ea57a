import ShadowTaint.Trace.Replay

/-!
# One thread in view

An event of a thread brings this thread into view, acts on it and the memory, and puts
it back. What such an event does to a replay is told by what its action does to the
view: the thread is put under its identifier, every other thread stays, and memory,
findings and result are those of the action. An action never renames its thread, and
only a step looks at the flags.
-/

namespace ShadowTaint

namespace ThreadTable

/-- Of two threads with one identifier, the later stays. -/
theorem insert_insert
    (table : ThreadTable)
    {first second : Thread}
    (same : first.id = second.id) :
    (table.insert first).insert second = table.insert second := by
  have found : ((table.insert first).find? second.id).isSome = true := by
    rw [find?_insert, if_pos same.symm]
    rfl
  have replaced (threads : List Thread) :
      (threads.map fun other => if other.id == second.id then first else other).map
          (fun other => if other.id == second.id then second else other) =
        threads.map fun other => if other.id == second.id then second else other := by
    rw [List.map_map]
    apply List.map_congr_left
    intro other _
    by_cases here : other.id = second.id
    · simp [here, same]
    · simp [here]
  rw [insert, if_pos found, insert, insert, same]
  split
  · exact congrArg ThreadTable.mk (replaced _)
  · rename_i absent
    have kept : table.threads.map
        (fun other => if other.id == second.id then second else other) = table.threads := by
      conv => rhs; rw [← List.map_id table.threads]
      apply List.map_congr_left
      intro other member
      have missing := List.find?_eq_none.1 (Option.not_isSome_iff_eq_none.1 absent) other member
      rw [if_neg missing]
      rfl
    rw [List.map_append, kept]
    simp [same]

/-- To remove a thread that is not there changes nothing. -/
theorem erase_of_absent
    {table : ThreadTable}
    {id : UInt32}
    (absent : table.find? id = none) :
    table.erase id = table := by
  rw [erase]
  congr 1
  rw [List.filter_eq_self]
  intro other member
  simpa using List.find?_eq_none.1 absent other member

end ThreadTable

/-! ## What an action keeps of its thread -/

namespace Watched

variable {Notes : Type} {watched : Watched Notes} {instr : Instruction} {context : Context}

theorem step_of_not_executes
    (skips : (watched.thread.arrive instr context).executes instr = false)
    (observer : Observer Notes)
    (config : AnalysisConfig) :
    watched.step observer config instr context =
      .done { watched with thread := watched.thread.arrive instr context } .skipped := by
  rw [step]
  dsimp only
  rw [skips, if_neg Bool.false_ne_true]

theorem step_of_executes
    (executes : (watched.thread.arrive instr context).executes instr = true)
    (observer : Observer Notes)
    (config : AnalysisConfig) :
    watched.step observer config instr context =
      ((Watched.mk (watched.thread.arrive instr context) watched.memory
        (observer.before instr watched.thread.registers watched.findings)).act
          (instr.execute config context)).andThen fun acted outcome =>
            .done (acted.finish observer instr outcome) outcome := by
  rw [step]
  dsimp only
  rw [executes, if_pos rfl]
  rfl

/-- What comes of a step that executes is what comes of its instruction. -/
theorem result_step_of_executes
    (executes : (watched.thread.arrive instr context).executes instr = true)
    (observer : Observer Notes)
    (config : AnalysisConfig) :
    (watched.step observer config instr context).result =
      (instr.execute config context ⟨watched.thread.registers, watched.memory⟩).result := by
  rw [step_of_executes executes, act]
  dsimp only [Thread.registers_arrive]
  generalize instr.execute config context _ = executed
  obtain ⟨after, result⟩ := executed
  cases result <;> rfl

/-- Arriving at an instruction is all that a step does to a thread, up to the taint of
its registers and the tally of unhandled opcodes. -/
theorem thread_step
    (observer : Observer Notes)
    (config : AnalysisConfig)
    (instr : Instruction)
    (context : Context)
    (watched : Watched Notes) :
    ∃ registers unhandled,
      (watched.step observer config instr context).state.thread =
        { watched.thread.arrive instr context with
          registers := registers
          unhandled := unhandled } := by
  cases executes : (watched.thread.arrive instr context).executes instr with
  | false =>
      rw [step_of_not_executes executes]
      exact ⟨_, _, rfl⟩
  | true =>
      rw [step_of_executes executes, act]
      generalize instr.execute config context _ = executed
      obtain ⟨shadow, result⟩ := executed
      cases result with
      | error fault => exact ⟨_, _, rfl⟩
      | ok outcome => cases outcome <;> exact ⟨_, _, rfl⟩

end Watched

namespace Analysis

theorem thread_step
    (analysis : Analysis)
    (instr : Instruction)
    (context : Context)
    (focus : Focus) :
    ∃ registers unhandled,
      (analysis.step instr context focus).state.thread =
        { focus.thread.arrive instr context with
          registers := registers
          unhandled := unhandled } :=
  Watched.thread_step ..

/-- Entering a call changes the taint of registers and the pending call at most. -/
theorem thread_enterCall
    (analysis : Analysis)
    (number : UInt32)
    (arguments : List UInt32)
    (focus : Focus) :
    ∃ registers pending,
      (analysis.enterCall number arguments focus).state.thread =
        { focus.thread with registers := registers, pendingCall := pending } := by
  rw [enterCall]
  split
  · split <;> exact ⟨_, _, rfl⟩
  · exact ⟨_, _, rfl⟩

/-- Returning from a call changes the taint of registers, and no call is pending. -/
theorem thread_leaveCall (analysis : Analysis) (call : CallReturn) (focus : Focus) :
    ∃ registers,
      (analysis.leaveCall call focus).state.thread =
        { focus.thread with registers := registers, pendingCall := none } := by
  rw [leaveCall, Watched.act]
  dsimp only
  generalize (call.cross _).andThen _ = crossed
  obtain ⟨shadow, result⟩ := crossed
  cases result <;> exact ⟨_, rfl⟩

@[simp] theorem id_step
    (analysis : Analysis)
    (instr : Instruction)
    (context : Context)
    (focus : Focus) :
    (analysis.step instr context focus).state.thread.id = focus.thread.id := by
  obtain ⟨_, _, thread⟩ := analysis.thread_step instr context focus
  rw [thread]
  rfl

@[simp] theorem id_enterCall
    (analysis : Analysis)
    (number : UInt32)
    (arguments : List UInt32)
    (focus : Focus) :
    (analysis.enterCall number arguments focus).state.thread.id = focus.thread.id := by
  obtain ⟨_, _, thread⟩ := analysis.thread_enterCall number arguments focus
  rw [thread]

@[simp] theorem id_leaveCall (analysis : Analysis) (call : CallReturn) (focus : Focus) :
    (analysis.leaveCall call focus).state.thread.id = focus.thread.id := by
  obtain ⟨_, thread⟩ := analysis.thread_leaveCall call focus
  rw [thread]

end Analysis

/-! ## Threads in view -/

namespace Replay

/-- One thread in view, begun if necessary. -/
def view (replay : Replay) (id : UInt32) : Focus :=
  ⟨((replay.begin id).threads.find? id).getD (Thread.start id),
    (replay.begin id).memory, (replay.begin id).findings⟩

/-- The taint of a register of a live thread. -/
def taint? (replay : Replay) (id : UInt32) (reg : Reg) : Option Lanes :=
  (replay.threads.find? id).map fun thread => thread.registers.get reg

/-- Put back a thread that was in view. -/
def putBack (replay : Replay) (focus : Focus) : Replay :=
  ⟨focus.memory, replay.threads.insert focus.thread, replay.counted, focus.findings⟩

/-- Count a value. -/
def count
    (replay : Replay)
    (counts : Statistics -> Value -> Statistics)
    (value : Value) : Replay :=
  { replay with counted := counts replay.counted value }

/-- A thread that has not begun comes into view as one that has done nothing. -/
theorem view_eq (replay : Replay) (id : UInt32) :
    replay.view id =
      ⟨(replay.threads.find? id).getD (Thread.start id), replay.memory, replay.findings⟩ := by
  have here : (Thread.start id).id = id := rfl
  unfold view begin
  cases found : replay.threads.find? id with
  | none =>
      rw [Option.isSome_none, if_neg Bool.false_ne_true]
      dsimp only
      rw [ThreadTable.find?_insert, if_pos here.symm]
      rfl
  | some thread =>
      rw [Option.isSome_some, if_pos rfl, found]

@[simp] theorem memory_view (replay : Replay) (id : UInt32) :
    (replay.view id).memory = replay.memory := by rw [view_eq]

@[simp] theorem findings_view (replay : Replay) (id : UInt32) :
    (replay.view id).findings = replay.findings := by rw [view_eq]

theorem thread_view (replay : Replay) (id : UInt32) :
    (replay.view id).thread = (replay.threads.find? id).getD (Thread.start id) := by rw [view_eq]

@[simp] theorem id_view (replay : Replay) (id : UInt32) : (replay.view id).thread.id = id := by
  rw [thread_view]
  cases found : replay.threads.find? id with
  | none => rfl
  | some thread => exact ThreadTable.id_of_find? found

/-- Counting changes no view. -/
@[simp] theorem view_countEvent (replay : Replay) (id : UInt32) :
    replay.countEvent.view id = replay.view id := by
  rw [view_eq, view_eq]
  rfl

@[simp] theorem view_countCall (replay : Replay) (id : UInt32) :
    replay.countCall.view id = replay.view id := by
  rw [view_eq, view_eq]
  rfl

/-- A thread that is put under its identifier need not have begun before. -/
theorem insert_begin
    (replay : Replay)
    {id : UInt32}
    {thread : Thread}
    (here : thread.id = id) :
    (replay.begin id).threads.insert thread = replay.threads.insert thread := by
  unfold begin
  split
  · rfl
  · exact ThreadTable.insert_insert _ here.symm

theorem within_eq
    (replay : Replay)
    (id : UInt32)
    (action : Focus -> Reached Fault Focus Value)
    (counts : Statistics -> Value -> Statistics) :
    replay.within id action counts =
      ((action (replay.view id)).mapState (replay.begin id).putBack).andThen
        fun reached value => .done (reached.count counts value) () := by
  unfold within view
  generalize replay.begin id = begun
  obtain ⟨memory, threads, counted, findings⟩ := begun
  dsimp only
  generalize action ⟨(threads.find? id).getD (Thread.start id), memory, findings⟩ = acted
  obtain ⟨focus, result⟩ := acted
  cases result <;> rfl

section Within

variable {replay : Replay} {id : UInt32} {action : Focus -> Reached Fault Focus Value}
  {counts : Statistics -> Value -> Statistics}

theorem memory_within :
    (replay.within id action counts).state.memory = (action (replay.view id)).state.memory := by
  rw [within_eq]
  generalize action (replay.view id) = acted
  obtain ⟨focus, result⟩ := acted
  cases result <;> rfl

theorem findings_within :
    (replay.within id action counts).state.findings =
      (action (replay.view id)).state.findings := by
  rw [within_eq]
  generalize action (replay.view id) = acted
  obtain ⟨focus, result⟩ := acted
  cases result <;> rfl

theorem result_within :
    (replay.within id action counts).result = (action (replay.view id)).result.map fun _ => () := by
  rw [within_eq]
  generalize action (replay.view id) = acted
  obtain ⟨focus, result⟩ := acted
  cases result <;> rfl

/-- The thread is put back, also by an action that was stopped. -/
theorem threads_within (kept : (action (replay.view id)).state.thread.id = id) :
    (replay.within id action counts).state.threads =
      replay.threads.insert (action (replay.view id)).state.thread := by
  rw [← insert_begin replay kept, within_eq]
  generalize action (replay.view id) = acted
  obtain ⟨focus, result⟩ := acted
  cases result <;> rfl

end Within
end Replay

namespace Analysis

/-- What comes of the instruction of an event, if it is one. -/
def outcome? (analysis : Analysis) (replay : Replay) :
    Event -> Option (Except Fault StepOutcome)
  | .step id instr context => some (analysis.step instr context (replay.view id)).result
  | _ => none

end Analysis
end ShadowTaint
