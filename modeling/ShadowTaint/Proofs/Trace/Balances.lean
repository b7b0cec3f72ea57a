import Mathlib.Algebra.BigOperators.Group.List.Basic
import Mathlib.Algebra.Ring.Nat
import Mathlib.Data.List.Nodup
import ShadowTaint.Proofs.Order.Effects
import ShadowTaint.Proofs.Trace.Tables

/-!
# Threads and tallies balance the history of a replay

A trace and a replay have a history: the events, each with the replay that it met. Threads
begin when an event needs them and end by an event that names them, and an opcode without
a rule is added to the tally of its thread, which is taken into the running counts when
the thread ends. So at every time each thread that has begun is live or has ended, and
each opcode that was met without a rule stands in exactly one tally.
-/

namespace ShadowTaint

/-! ## Histories -/

namespace Event

/-- The event is an instruction about to execute. -/
def isStep : Event -> Bool
  | step _ _ _ => true
  | _ => false

/-- The event is a system call about to be entered. -/
def isCallEntry : Event -> Bool
  | callEntry _ _ _ => true
  | _ => false

/-- The event is a system call that carries a control request. -/
def isControlRequest : Event -> Bool
  | callEntry _ number arguments => (ControlRequest.ofCall? number arguments).isSome
  | _ => false

end Event

/-- The instruction executed, and there is no rule for it. -/
def StepOutcome.isUnhandled : StepOutcome -> Bool
  | unhandled _ => true
  | _ => false

/-- An event, with the replay that it meets. -/
structure Meeting where
  replay : Replay
  event : Event

namespace Meeting

/-- The event ends a live thread. -/
def endsThread (meeting : Meeting) : Bool :=
  match meeting.event with
  | .threadExit id => (meeting.replay.threads.find? id).isSome
  | _ => false

/-- The opcode of an instruction that executes without a rule. -/
def unhandled? (analysis : Analysis) (meeting : Meeting) : Option Opcode :=
  match meeting.event, analysis.outcome? meeting.replay meeting.event with
  | .step _ instr _, some (.ok outcome) =>
      if outcome.isUnhandled then some instr.opcode else none
  | _, _ => none

end Meeting

namespace Analysis

/-- The events of a trace, each with the replay that it meets. -/
def history (analysis : Analysis) (replay : Replay) : List Event -> List Meeting
  | [] => []
  | event :: rest =>
      ⟨replay, event⟩ :: analysis.history (analysis.apply replay event).state rest

@[simp] theorem map_event_history
    (analysis : Analysis)
    (replay : Replay)
    (events : List Event) :
    (analysis.history replay events).map Meeting.event = events := by
  induction events generalizing replay with
  | nil => rfl
  | cons event rest inductionHypothesis => simp [history, inductionHypothesis]

/-- The last event meets the replay of those before it. -/
theorem history_concat
    {analysis : Analysis}
    {replay reached : Replay}
    {past : List Event}
    (ran : analysis.applyAll replay past = .done reached ())
    (event : Event) :
    analysis.history replay (past ++ [event]) =
      analysis.history replay past ++ [⟨reached, event⟩] := by
  induction past generalizing replay with
  | nil =>
      cases ran
      rfl
  | cons first rest inductionHypothesis =>
      obtain ⟨next, value, firstRan, restRan⟩ := Reached.andThen_eq_done_iff.1 ran
      rw [List.cons_append, history, history, firstRan, Reached.done]
      exact congrArg _ (inductionHypothesis restRan)

end Analysis

/-! ## Tallies -/

namespace Opcode

theorem nodup_all : all.Nodup := by
  refine List.Nodup.of_map index ?_
  rw [map_index_all]
  exact List.nodup_finRange _

/-- Counts of single opcodes add up to the count of all that are met. -/
theorem sum_countP_all (met? : Meeting -> Option Opcode) (history : List Meeting) :
    (all.map fun opcode => history.countP fun meeting => met? meeting == some opcode).sum =
      history.countP fun meeting => (met? meeting).isSome := by
  induction history with
  | nil => simp
  | cons meeting rest inductionHypothesis =>
      simp only [List.countP_cons, List.sum_map_add, inductionHypothesis]
      cases met? meeting with
      | none => simp
      | some met =>
          rw [List.sum_map_eq_nsmul_single met, nodup_all.count, if_pos (mem_all met)]
          · simp
          · intro other apart _
            simp [Ne.symm apart]

end Opcode

namespace Tally

theorem countOf_add (tally : Tally) (added opcode : Opcode) :
    (tally.add added).countOf opcode =
      tally.countOf opcode + if added = opcode then 1 else 0 := by
  have apart (different : added ≠ opcode) : added.index.val ≠ opcode.index.val := fun equal =>
    different (Opcode.index_injective (Fin.ext equal))
  simp only [add, countOf, Fin.getElem_fin, Vector.getElem_set]
  by_cases same : added = opcode
  · simp [same]
  · simp [same, apart same]

/-- An opcode has an entry with its count exactly if that is not zero. -/
theorem mem_entries_iff {tally : Tally} {opcode : Opcode} {count : Nat} :
    (opcode, count) ∈ tally.entries ↔ count = tally.countOf opcode ∧ count ≠ 0 := by
  simp only [entries, List.mem_filter, List.mem_map, Prod.mk.injEq, bne_iff_ne, ne_eq]
  constructor
  · rintro ⟨⟨other, -, rfl, counted⟩, nonzero⟩
    exact ⟨counted.symm, nonzero⟩
  · rintro ⟨counted, nonzero⟩
    exact ⟨⟨opcode, Opcode.mem_all opcode, rfl, counted.symm⟩, nonzero⟩

/-- Opcodes without an entry add nothing. -/
theorem sum_entries (tally : Tally) :
    (tally.entries.map Prod.snd).sum = (Opcode.all.map tally.countOf).sum := by
  unfold entries
  induction Opcode.all with
  | nil => rfl
  | cons opcode rest inductionHypothesis =>
      by_cases none : tally.countOf opcode = 0
      · simpa [none] using inductionHypothesis
      · simpa [none] using inductionHypothesis

theorem countOf_foldl_merge (threads : List Thread) (tally : Tally) (opcode : Opcode) :
    (threads.foldl (fun merged thread => merged.merge thread.unhandled) tally).countOf opcode =
      tally.countOf opcode +
        (threads.map fun thread => thread.unhandled.countOf opcode).sum := by
  induction threads generalizing tally with
  | nil => simp
  | cons thread rest inductionHypothesis => simp [inductionHypothesis, Nat.add_assoc]

end Tally

namespace ThreadTable

/-- How often the live threads have met an opcode without a rule. -/
def tallied (table : ThreadTable) (opcode : Opcode) : Nat :=
  (table.threads.map fun thread => thread.unhandled.countOf opcode).sum

theorem tallied_of_perm
    {table : ThreadTable}
    {thread : Thread}
    {others : ThreadTable}
    (rearranged : table.threads.Perm (thread :: others.threads))
    (opcode : Opcode) :
    table.tallied opcode = thread.unhandled.countOf opcode + others.tallied opcode :=
  (rearranged.map _).sum_nat

end ThreadTable

namespace Statistics

/-- Taking threads in changes nothing but the tally. -/
theorem foldl_takeIn (threads : List Thread) (statistics : Statistics) :
    threads.foldl takeIn statistics =
      { statistics with
        unhandledOpcodes := threads.foldl (fun merged thread => merged.merge thread.unhandled)
          statistics.unhandledOpcodes } := by
  induction threads generalizing statistics with
  | nil => rfl
  | cons thread rest inductionHypothesis =>
      rw [List.foldl_cons, inductionHypothesis]
      rfl

end Statistics

namespace Replay

theorem countOf_statistics (replay : Replay) (opcode : Opcode) :
    replay.statistics.unhandledOpcodes.countOf opcode =
      replay.counted.unhandledOpcodes.countOf opcode + replay.threads.tallied opcode := by
  rw [statistics, Statistics.foldl_takeIn]
  exact Tally.countOf_foldl_merge ..

/-- The tally of a thread in view, which is empty if the thread is not live, and the
tallies of the others. -/
theorem tallied_view
    {replay : Replay}
    (distinct : replay.threads.Distinct)
    (id : UInt32)
    (opcode : Opcode) :
    replay.threads.tallied opcode =
      (replay.view id).thread.unhandled.countOf opcode +
        (replay.threads.erase id).tallied opcode := by
  rw [thread_view]
  cases found : replay.threads.find? id with
  | none => simp [ThreadTable.erase_of_absent found, Thread.start]
  | some thread => exact ThreadTable.tallied_of_perm (distinct.perm_cons_erase found) opcode

/-- A thread that begins is counted, and nothing else is. -/
theorem begin_counted (replay : Replay) (id : UInt32) :
    (replay.begin id).counted =
      { replay.counted with
        threads :=
          replay.counted.threads + if (replay.threads.find? id).isSome then 0 else 1 } := by
  rw [begin]
  cases (replay.threads.find? id).isSome with
  | false => rfl
  | true => rfl

/-- An action counts its value after its thread has begun. -/
theorem counted_within
    {replay : Replay}
    {id : UInt32}
    {action : Focus -> Reached Fault Focus Value}
    {value : Value}
    (acted : (action (replay.view id)).result = .ok value)
    (counts : Statistics -> Value -> Statistics) :
    (replay.within id action counts).state.counted = counts (replay.begin id).counted value := by
  rw [within_eq, Reached.eq_done acted]
  rfl

end Replay

/-! ## What actions add to the tally of their thread -/

namespace Analysis

variable {analysis : Analysis} {replay : Replay}

/-- A step adds to the tally exactly if its instruction has no rule. -/
theorem countOf_step
    {instr : Instruction}
    {context : Context}
    {focus : Focus}
    {outcome : StepOutcome}
    (ran : (analysis.step instr context focus).result = .ok outcome)
    (opcode : Opcode) :
    (analysis.step instr context focus).state.thread.unhandled.countOf opcode =
      focus.thread.unhandled.countOf opcode +
        if outcome.isUnhandled ∧ instr.opcode = opcode then 1 else 0 := by
  cases executes : (focus.thread.arrive instr context).executes instr with
  | false =>
      rw [step, Watched.step_of_not_executes executes] at ran ⊢
      cases ran
      simp [StepOutcome.isUnhandled, Reached.done, Thread.arrive]
  | true =>
      rw [step, Watched.step_of_executes executes, Watched.act] at ran ⊢
      generalize instr.execute analysis.config context _ = executed at ran ⊢
      obtain ⟨shadow, result⟩ := executed
      cases result with
      | error fault => cases ran
      | ok value =>
          cases ran
          cases outcome with
          | executed | skipped => simp [StepOutcome.isUnhandled]; rfl
          | unhandled kind =>
              simp only [StepOutcome.isUnhandled, true_and]
              exact Tally.countOf_add ..

theorem unhandled_enterCall (number : UInt32) (arguments : List UInt32) (focus : Focus) :
    (analysis.enterCall number arguments focus).state.thread.unhandled =
      focus.thread.unhandled := by
  obtain ⟨_, _, thread⟩ := analysis.thread_enterCall number arguments focus
  rw [thread]

theorem unhandled_leaveCall (call : CallReturn) (focus : Focus) :
    (analysis.leaveCall call focus).state.thread.unhandled = focus.thread.unhandled := by
  obtain ⟨_, thread⟩ := analysis.thread_leaveCall call focus
  rw [thread]

end Analysis

/-! ## Balances -/

/-- Threads and tallies balance a history: every thread that has begun is live or has
ended, and every opcode without a rule stands in one tally. -/
structure Replay.Balances
    (analysis : Analysis)
    (replay : Replay)
    (history : List Meeting) : Prop where
  distinct : replay.threads.Distinct
  threads :
    replay.counted.threads = replay.threads.threads.length + history.countP Meeting.endsThread
  opcodes : ∀ opcode,
    replay.counted.unhandledOpcodes.countOf opcode + replay.threads.tallied opcode =
      history.countP fun meeting => meeting.unhandled? analysis == some opcode

namespace Replay.Balances

variable {analysis : Analysis} {replay : Replay} {history : List Meeting} {id : UInt32}

/-- A balance depends on threads and tallies only. -/
theorem congr
    {other : Replay}
    (balances : replay.Balances analysis history)
    (sameThreads : other.threads = replay.threads)
    (sameCount : other.counted.threads = replay.counted.threads)
    (sameTally : other.counted.unhandledOpcodes = replay.counted.unhandledOpcodes) :
    other.Balances analysis history := by
  obtain ⟨distinct, threads, opcodes⟩ := balances
  exact ⟨sameThreads ▸ distinct, by rw [sameThreads, sameCount, threads],
    fun opcode => by rw [sameThreads, sameTally, opcodes]⟩

/-- A meeting that ends no thread and lacks no rule moves no balance. -/
theorem still
    {meeting : Meeting}
    (balances : replay.Balances analysis history)
    (stays : meeting.endsThread = false)
    (ruled : meeting.unhandled? analysis = none) :
    replay.Balances analysis (history ++ [meeting]) := by
  obtain ⟨distinct, threads, opcodes⟩ := balances
  refine ⟨distinct, ?_, fun opcode => ?_⟩
  · simp [threads, stays]
  · simp [opcodes, ruled]

theorem changeMemory
    {meeting : Meeting}
    (balances : replay.Balances analysis history)
    (change : Memory -> Except Fault Memory)
    (stays : meeting.endsThread = false)
    (ruled : meeting.unhandled? analysis = none) :
    (replay.changeMemory change).state.Balances analysis (history ++ [meeting]) := by
  rw [Replay.changeMemory]
  split
  · exact (balances.still stays ruled).congr rfl rfl rfl
  · exact balances.still stays ruled

/-- An action moves a balance by what it adds to the tally of its thread. -/
theorem within
    {meeting : Meeting}
    {action : Focus -> Reached Fault Focus Value}
    {counts : Statistics -> Value -> Statistics}
    {value : Value}
    (balances : replay.Balances analysis history)
    (stays : meeting.endsThread = false)
    (acted : (action (replay.view id)).result = .ok value)
    (kept : (action (replay.view id)).state.thread.id = id)
    (tallied : ∀ opcode,
      (action (replay.view id)).state.thread.unhandled.countOf opcode =
        (replay.view id).thread.unhandled.countOf opcode +
          if meeting.unhandled? analysis = some opcode then 1 else 0)
    (sameThreads : ∀ statistics value, (counts statistics value).threads = statistics.threads)
    (sameTally : ∀ statistics value,
      (counts statistics value).unhandledOpcodes = statistics.unhandledOpcodes) :
    (replay.within id action counts).state.Balances analysis (history ++ [meeting]) := by
  obtain ⟨distinct, threads, opcodes⟩ := balances
  set thread := (action (replay.view id)).state.thread with acting
  have entered : (replay.within id action counts).state.threads =
      replay.threads.insert thread := threads_within kept
  have counted : (replay.within id action counts).state.counted =
      counts (replay.begin id).counted value := counted_within acted counts
  have others : thread.id = id := kept
  constructor
  case distinct =>
    rw [entered]
    exact distinct.insert thread
  case threads =>
    rw [entered, counted, sameThreads, begin_counted, ← others, List.countP_append,
      List.countP_singleton, stays]
    by_cases found : (replay.threads.find? thread.id).isSome
    · simp [ThreadTable.insert_of_found found, found, threads]
    · rw [ThreadTable.insert_of_absent found, if_neg found, List.length_append]
      simp only [threads, List.length_singleton, if_neg Bool.false_ne_true]
      omega
  case opcodes =>
    intro opcode
    rw [entered, counted, sameTally, begin_counted,
      ThreadTable.tallied_of_perm (distinct.insert_perm thread), others, tallied,
      List.countP_append, ← opcodes, tallied_view distinct id, List.countP_singleton]
    simp only [beq_iff_eq]
    omega

/-- A thread that ends leaves its tally behind. -/
theorem endThread
    {meeting : Meeting}
    (balances : replay.Balances analysis history)
    (ends : meeting.endsThread = (replay.threads.find? id).isSome)
    (ruled : meeting.unhandled? analysis = none) :
    (replay.endThread id).Balances analysis (history ++ [meeting]) := by
  cases found : replay.threads.find? id with
  | none =>
      rw [found] at ends
      rw [Replay.endThread, found]
      exact balances.still ends ruled
  | some thread =>
      obtain ⟨distinct, threads, opcodes⟩ := balances
      have others := distinct.perm_cons_erase found
      rw [found, Option.isSome_some] at ends
      rw [Replay.endThread, found]
      constructor
      case distinct => exact distinct.erase id
      case threads =>
        have shorter := others.length_eq
        rw [List.length_cons] at shorter
        rw [List.countP_append, List.countP_singleton, ends, if_pos rfl]
        show replay.counted.threads = (replay.threads.erase id).threads.length + _
        omega
      case opcodes =>
        intro opcode
        rw [List.countP_append, List.countP_singleton, ruled, ← opcodes,
          ThreadTable.tallied_of_perm others]
        simp [Statistics.takeIn, Nat.add_assoc]

end Replay.Balances

namespace Analysis

variable {analysis : Analysis} {replay : Replay} {history : List Meeting}

/-- Every event that runs to its end keeps the balance. -/
theorem apply_balances
    (balances : replay.Balances analysis history)
    (event : Event)
    (ran : (analysis.apply replay event).result = .ok ()) :
    (analysis.apply replay event).state.Balances analysis (history ++ [⟨replay, event⟩]) := by
  have counted : replay.countEvent.Balances analysis history := balances.congr rfl rfl rfl
  have called : replay.countEvent.countCall.Balances analysis history :=
    balances.congr rfl rfl rfl
  cases event with
  | step id instr context =>
      obtain ⟨outcome, stepped⟩ := Replay.action_ran Replay.countEvent_eq ran
      have met : Meeting.unhandled? analysis ⟨replay, .step id instr context⟩ =
          if outcome.isUnhandled then some instr.opcode else none := by
        rw [Meeting.unhandled?, outcome?, stepped]
      rw [← replay.view_countEvent] at stepped
      refine counted.within rfl stepped (by simp) ?tallied ?_ ?_
      case tallied =>
        intro opcode
        rw [countOf_step stepped, met]
        cases outcome.isUnhandled <;> simp
      · intro statistics outcome
        cases outcome <;> rfl
      · intro statistics outcome
        cases outcome <;> rfl
  | callEntry id number arguments =>
      obtain ⟨disposition, entered⟩ := Replay.action_ran Replay.countCall_eq ran
      rw [← Replay.view_countCall] at entered
      refine called.within rfl entered (by simp) ?tallied ?_ ?_
      case tallied =>
        intro opcode
        rw [unhandled_enterCall]
        rfl
      · intro statistics disposition
        cases disposition <;> rfl
      · intro statistics disposition
        cases disposition <;> rfl
  | callReturn id call =>
      obtain ⟨value, left⟩ := Replay.action_ran Replay.countEvent_eq ran
      rw [← replay.view_countEvent] at left
      refine counted.within rfl left (by simp) ?tallied (fun _ _ => rfl) (fun _ _ => rfl)
      intro opcode
      rw [unhandled_leaveCall]
      rfl
  | taint address length label? | untaint address length =>
      exact counted.changeMemory _ rfl rfl
  | threadExit id => exact counted.endThread rfl rfl

end Analysis
end ShadowTaint
