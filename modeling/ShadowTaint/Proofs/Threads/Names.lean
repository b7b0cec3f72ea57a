import ShadowTaint.Proofs.Trace.View

/-!
# Threads under other names

The identifier of a thread tells it from the other live threads, and nothing else depends
on it. If the threads of a replay get other names, and no live thread the name of the one
that an event belongs to, the event has the same effect and the same outcome under the
new names.
-/

namespace ShadowTaint

variable {names other : UInt32 -> UInt32}

/-! ## Threads and tables -/

namespace Thread

/-- A thread with another name for its identifier. -/
def rename (names : UInt32 -> UInt32) (thread : Thread) : Thread :=
  { thread with id := names thread.id }

@[simp] theorem id_rename (thread : Thread) : (thread.rename names).id = names thread.id := rfl

theorem arrive_rename (thread : Thread) (instr : Instruction) (context : Context) :
    (thread.rename names).arrive instr context = (thread.arrive instr context).rename names := rfl

theorem executes_rename (thread : Thread) (instr : Instruction) :
    (thread.rename names).executes instr = thread.executes instr := rfl

end Thread

namespace ThreadTable

/-- Live threads under other names. -/
def rename (names : UInt32 -> UInt32) (table : ThreadTable) : ThreadTable :=
  ⟨table.threads.map (Thread.rename names)⟩

/-- No live thread but the one with the identifier gets its name. -/
def Separates (table : ThreadTable) (names : UInt32 -> UInt32) (id : UInt32) : Prop :=
  ∀ thread ∈ table.threads, names thread.id = names id -> thread.id = id

variable {table : ThreadTable} {id : UInt32} {thread : Thread}

/-- The name of a live thread is compared like its identifier. -/
theorem Separates.beq_names
    (separates : table.Separates names id)
    (member : thread ∈ table.threads) :
    (names thread.id == names id) = (thread.id == id) := by
  rw [Bool.eq_iff_iff, beq_iff_eq, beq_iff_eq]
  exact ⟨separates thread member, congrArg names⟩

/-- Names that agree on the live threads give the same table. -/
theorem rename_congr
    (agree : ∀ thread ∈ table.threads, names thread.id = other thread.id) :
    table.rename names = table.rename other := by
  rw [rename, rename]
  congr 1
  apply List.map_congr_left
  intro thread member
  rw [Thread.rename, Thread.rename, agree thread member]

/-- Behind an insertion are the inserted thread and threads from before. -/
theorem mem_insert
    {added : Thread}
    (member : thread ∈ (table.insert added).threads) :
    thread = added ∨ thread ∈ table.threads := by
  rw [insert] at member
  split at member
  · obtain ⟨earlier, inTable, rfl⟩ := List.mem_map.1 member
    split
    · exact .inl rfl
    · exact .inr inTable
  · obtain inTable | added := List.mem_append.1 member
    · exact .inr inTable
    · exact .inl (List.mem_singleton.1 added)

/-- Whether an identifier is found is decided the same under separating names. -/
theorem find?_rename (separates : table.Separates names id) :
    (table.rename names).find? (names id) = (table.find? id).map (Thread.rename names) := by
  rw [find?, rename, List.find?_map, find?, ← List.head?_filter, ← List.head?_filter]
  congr 2
  apply List.filter_congr
  exact fun thread member => separates.beq_names member

theorem rename_insert (separates : table.Separates names thread.id) :
    (table.insert thread).rename names = (table.rename names).insert (thread.rename names) := by
  rw [insert, insert, Thread.id_rename, find?_rename separates, Option.isSome_map]
  split
  · simp only [rename, List.map_map]
    congr 1
    apply List.map_congr_left
    intro old member
    simp only [Function.comp_apply, Thread.id_rename, separates.beq_names member]
    exact apply_ite (Thread.rename names) _ _ _
  · simp [rename]

theorem rename_erase (separates : table.Separates names id) :
    (table.erase id).rename names = (table.rename names).erase (names id) := by
  rw [erase, rename, rename, erase, List.filter_map]
  congr 2
  apply List.filter_congr
  intro thread member
  simp only [Function.comp_apply, Thread.id_rename, bne, separates.beq_names member]

end ThreadTable

/-! ## Actions on a thread in view -/

namespace Watched

variable {Notes : Type}

/-- A thread in view, under another name. -/
def rename (names : UInt32 -> UInt32) (watched : Watched Notes) : Watched Notes :=
  { watched with thread := watched.thread.rename names }

/-- A step does not look at the name of its thread. -/
theorem step_rename
    (observer : Observer Notes)
    (config : AnalysisConfig)
    (instr : Instruction)
    (context : Context)
    (watched : Watched Notes) :
    (watched.rename names).step observer config instr context =
      (watched.step observer config instr context).mapState (rename names) := by
  have arrived : ((watched.rename names).thread.arrive instr context).executes instr =
      (watched.thread.arrive instr context).executes instr := by
    rw [rename, Thread.arrive_rename, Thread.executes_rename]
  cases executes : (watched.thread.arrive instr context).executes instr with
  | false =>
      rw [step_of_not_executes executes, step_of_not_executes (arrived.trans executes)]
      rfl
  | true =>
      rw [step_of_executes executes, step_of_executes (arrived.trans executes), act, act]
      dsimp only [rename, Thread.rename, Thread.arrive]
      generalize instr.execute config context _ = executed
      obtain ⟨shadow, result⟩ := executed
      cases result with
      | error fault => rfl
      | ok outcome => cases outcome <;> rfl

end Watched

namespace Analysis

theorem enterCall_rename
    (analysis : Analysis)
    (number : UInt32)
    (arguments : List UInt32)
    (focus : Focus) :
    analysis.enterCall number arguments (focus.rename names) =
      (analysis.enterCall number arguments focus).mapState (Watched.rename names) := by
  rw [enterCall, enterCall]
  split
  · dsimp only [Watched.rename]
    split <;> rfl
  · rfl

theorem leaveCall_rename (analysis : Analysis) (call : CallReturn) (focus : Focus) :
    analysis.leaveCall call (focus.rename names) =
      (analysis.leaveCall call focus).mapState (Watched.rename names) := by
  rw [leaveCall, leaveCall, Watched.act, Watched.act]
  dsimp only [Watched.rename, Thread.rename]
  generalize (call.cross _).andThen _ = crossed
  obtain ⟨shadow, result⟩ := crossed
  cases result <;> rfl

end Analysis

/-! ## Replays -/

namespace Replay

/-- A replay with other names for its threads. -/
def rename (names : UInt32 -> UInt32) (replay : Replay) : Replay :=
  { replay with threads := replay.threads.rename names }

variable {replay : Replay} {id : UInt32}

/-- Names do not count. -/
@[simp] theorem statistics_rename (names : UInt32 -> UInt32) (replay : Replay) :
    (replay.rename names).statistics = replay.statistics := List.foldl_map

theorem separates_begin (separates : replay.threads.Separates names id) :
    (replay.begin id).threads.Separates names id := by
  rw [begin]
  split
  · exact separates
  · intro thread member sameName
    obtain rfl | inTable := ThreadTable.mem_insert member
    · rfl
    · exact separates thread inTable sameName

theorem begin_rename (separates : replay.threads.Separates names id) :
    (replay.rename names).begin (names id) = (replay.begin id).rename names := by
  have found : ((replay.rename names).threads.find? (names id)).isSome =
      (replay.threads.find? id).isSome := by
    rw [rename, ThreadTable.find?_rename separates, Option.isSome_map]
  rw [begin, begin, found]
  split
  · rfl
  · have inserted : (replay.threads.insert (Thread.start id)).rename names =
        (replay.threads.rename names).insert ((Thread.start id).rename names) :=
      ThreadTable.rename_insert separates
    simp only [rename, inserted]
    rfl

theorem view_rename (separates : replay.threads.Separates names id) :
    (replay.rename names).view (names id) = (replay.view id).rename names := by
  rw [view_eq, view_eq, rename, ThreadTable.find?_rename separates]
  cases replay.threads.find? id <;> rfl

theorem within_rename
    (replay : Replay)
    {action : Focus -> Reached Fault Focus Value}
    (separates : replay.threads.Separates names id)
    (kept : (action (replay.view id)).state.thread.id = id)
    (commutes : action ((replay.view id).rename names) =
      (action (replay.view id)).mapState (Watched.rename names))
    (counts : Statistics -> Value -> Statistics) :
    (replay.rename names).within (names id) action counts =
      (replay.within id action counts).mapState (rename names) := by
  rw [within_eq, within_eq, view_rename separates, commutes, begin_rename separates]
  generalize action (replay.view id) = acted at kept
  obtain ⟨focus, result⟩ := acted
  dsimp only at kept
  have inserted : ((replay.begin id).threads.insert focus.thread).rename names =
      ((replay.begin id).threads.rename names).insert (focus.thread.rename names) :=
    ThreadTable.rename_insert (by rw [kept]; exact separates_begin separates)
  cases result <;>
    simp only [Reached.mapState, Reached.andThen, Reached.done, Reached.stopped, count, putBack,
      rename, Watched.rename, inserted]

theorem endThread_rename
    (replay : Replay)
    (separates : replay.threads.Separates names id) :
    (replay.rename names).endThread (names id) = (replay.endThread id).rename names := by
  rw [endThread, endThread, rename.eq_def names replay, ThreadTable.find?_rename separates]
  cases replay.threads.find? id with
  | none => rfl
  | some thread =>
      simp only [Option.map_some, rename, ThreadTable.rename_erase separates]
      rfl

theorem threads_endThread (replay : Replay) (id : UInt32) :
    (replay.endThread id).threads = replay.threads.erase id := by
  rw [endThread]
  cases found : replay.threads.find? id with
  | none => exact (ThreadTable.erase_of_absent found).symm
  | some thread => rfl

end Replay

/-! ## Events -/

/-- An event of a thread with another name. -/
def Event.rename (names : UInt32 -> UInt32) : Event -> Event
  | step id instr context => step (names id) instr context
  | callEntry id number arguments => callEntry (names id) number arguments
  | callReturn id call => callReturn (names id) call
  | taint address length label? => taint address length label?
  | untaint address length => untaint address length
  | threadExit id => threadExit (names id)

namespace Analysis

variable {analysis : Analysis} {replay : Replay} {event : Event}

/-- What becomes of the call that an event enters, if it is one. -/
def disposition? (analysis : Analysis) (replay : Replay) :
    Event -> Option (Except Fault CallDisposition)
  | .callEntry id number arguments =>
      some (analysis.enterCall number arguments (replay.view id)).result
  | _ => none

section Separates

variable (separates : ∀ id, event.thread? = some id -> replay.threads.Separates names id)

include separates

/-- An event does the same under other names. -/
theorem apply_rename :
    analysis.apply (replay.rename names) (event.rename names) =
      (analysis.apply replay event).mapState (Replay.rename names) := by
  cases event with
  | step id instr context =>
      have kept : (analysis.step instr context
          (replay.countEvent.view id)).state.thread.id = id := by
        rw [id_step, Replay.id_view]
      exact replay.countEvent.within_rename (separates id rfl) kept (Watched.step_rename ..) _
  | callEntry id number arguments =>
      have kept : (analysis.enterCall number arguments
          (replay.countEvent.countCall.view id)).state.thread.id = id := by
        rw [id_enterCall, Replay.id_view]
      exact replay.countEvent.countCall.within_rename (separates id rfl) kept
        (enterCall_rename ..) _
  | callReturn id call =>
      have kept : (analysis.leaveCall call (replay.countEvent.view id)).state.thread.id = id := by
        rw [id_leaveCall, Replay.id_view]
      exact replay.countEvent.within_rename (separates id rfl) kept (leaveCall_rename ..)
        fun statistics _ => statistics
  | taint address length label? | untaint address length =>
      simp only [Event.rename, apply, Replay.changeMemory, Replay.countEvent, Replay.rename]
      split <;> rfl
  | threadExit id =>
      exact congrArg (Reached.done · ())
        (replay.countEvent.endThread_rename (separates id rfl))

theorem outcome?_rename :
    analysis.outcome? (replay.rename names) (event.rename names) =
      analysis.outcome? replay event := by
  cases event with
  | step id instr context =>
      rw [Event.rename, outcome?, Replay.view_rename (separates id rfl), step,
        Watched.step_rename]
      rfl
  | _ => rfl

theorem disposition?_rename :
    analysis.disposition? (replay.rename names) (event.rename names) =
      analysis.disposition? replay event := by
  cases event with
  | callEntry id number arguments =>
      rw [Event.rename, disposition?, Replay.view_rename (separates id rfl), enterCall_rename]
      rfl
  | _ => rfl

end Separates

/-- Behind an event are threads from before it and its own, unless it is their exit. -/
theorem mem_threads_apply
    {thread : Thread}
    (member : thread ∈ (analysis.apply replay event).state.threads.threads) :
    event ≠ .threadExit thread.id ∧
      (event.thread? = some thread.id ∨ thread ∈ replay.threads.threads) := by
  have within {Value : Type} {counting : Replay} {id : UInt32}
      {action : Focus -> Reached Fault Focus Value} {counts : Statistics -> Value -> Statistics}
      (kept : (action (counting.view id)).state.thread.id = id)
      (inTable : thread ∈ (counting.within id action counts).state.threads.threads) :
      id = thread.id ∨ thread ∈ counting.threads.threads := by
    rw [Replay.threads_within kept] at inTable
    obtain rfl | earlier := ThreadTable.mem_insert inTable
    · exact .inl kept.symm
    · exact .inr earlier
  cases event with
  | step id instr context =>
      refine ⟨nofun, (within ?_ member).imp_left (congrArg some)⟩
      rw [id_step, Replay.id_view]
  | callEntry id number arguments =>
      refine ⟨nofun, (within ?_ member).imp_left (congrArg some)⟩
      rw [id_enterCall, Replay.id_view]
  | callReturn id call =>
      refine ⟨nofun, (within ?_ member).imp_left (congrArg some)⟩
      rw [id_leaveCall, Replay.id_view]
  | taint address length label? | untaint address length =>
      refine ⟨nofun, .inr ?_⟩
      rw [apply, Replay.changeMemory] at member
      split at member <;> exact member
  | threadExit id =>
      have left : thread ∈ (replay.countEvent.endThread id).threads.threads := member
      rw [Replay.threads_endThread] at left
      obtain ⟨inTable, different⟩ := List.mem_filter.1 left
      refine ⟨?_, .inr inTable⟩
      intro ended
      exact bne_iff_ne.1 different (Event.threadExit.inj ended).symm

end Analysis
end ShadowTaint
